/-!
# Floating-point numbers as exact values

A finite `Float` is `± mantissa · 2 ^ exponent` with natural `mantissa`. This file reads that form
off the bits and derives the exact roundings to integers from it, so that nothing here depends on
how a machine rounds.
-/

namespace ApiStub

-- Powers and sums of numbers use the core instances, whatever else is imported beside this file.
attribute [instance(high), default_instance 20000] instPowNat
attribute [instance(high)] Zero.ofOfNat0

/-- The value `± mantissa · 2 ^ exponent`. -/
structure Binary64 where
  /-- The sign bit. -/
  negative : Bool
  /-- The integer significand. -/
  mantissa : Nat
  /-- The power of two it is scaled by. -/
  exponent : Int
  deriving Repr, DecidableEq

namespace Binary64

/-- The exact value of a finite number; `none` for infinities and NaN. -/
def ofFloat? (x : Float) : Option Binary64 :=
  let bits : Nat := x.toBits.toNat
  let fraction : Nat := bits % 2 ^ 52
  let biased : Nat := bits / 2 ^ 52 % 2 ^ 11
  let negative := bits / 2 ^ 63 == 1
  if biased == 2047 then none
  else if biased == 0 then some ⟨negative, fraction, -1074⟩
  else some ⟨negative, fraction + 2 ^ 52, (biased : Int) - 1075⟩

/-- The value as a quotient of two integers, the second positive. -/
def fraction (x : Binary64) : Int × Nat :=
  let signed : Int := if x.negative then -x.mantissa else x.mantissa
  match x.exponent with
  | .ofNat e => (signed * 2 ^ e, 1)
  | .negSucc e => (signed, 2 ^ (e + 1))

/-- The greatest integer that is not above the value. -/
def floor (x : Binary64) : Int :=
  x.fraction.1.fdiv x.fraction.2

/-- The least integer that is not below the value. -/
def ceil (x : Binary64) : Int :=
  -(-x.fraction.1).fdiv x.fraction.2

/-- The nearest integer; a half goes away from zero. -/
def round (x : Binary64) : Int :=
  let (numerator, denominator) := x.fraction
  let magnitude : Int := (2 * numerator.natAbs + denominator) / (2 * denominator)
  if numerator < 0 then -magnitude else magnitude

end Binary64

/-- An integral float with the sign of `x`, so that a negative number that rounds to nothing
becomes negative zero. The magnitude is below 2 ^ 53, where the conversion is exact. -/
def withSignOf (x : Binary64) (n : Int) : Float :=
  if x.negative then -(Float.ofNat n.natAbs) else Float.ofNat n.natAbs

/-- The number as text of 16 lower-case hexadecimal digits, its IEEE 754 bits. -/
def hexBits (x : Float) : String :=
  let digits := Nat.toDigits 16 x.toBits.toNat
  String.ofList (List.replicate (16 - digits.length) '0' ++ digits)

end ApiStub
