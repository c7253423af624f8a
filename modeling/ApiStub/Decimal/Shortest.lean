import ApiStub.Decimal.Binary64

/-!
# The shortest decimal that reads back

`shortest` gives the decimal with the fewest digits that lies in the rounding interval of a
floating-point number, and of those the nearest to its exact value. All of it is exact arithmetic
on natural numbers: the number is a fraction, its interval has two fractions as ends, and the
candidates with `n` digits are the two neighbours of the number on the grid of `n`-digit decimals.
-/

namespace ApiStub

/-- The decimal `digits · 10 ^ exponent`. -/
structure Decimal where
  /-- The digits, as a natural number. -/
  digits : Nat
  /-- The power of ten. -/
  exponent : Int
  deriving Repr, DecidableEq

namespace Decimal

/-- The decimal exponent of a positive fraction: the `k` with
`10 ^ k ≤ numerator / denominator < 10 ^ (k + 1)`. -/
def magnitude (numerator denominator : Nat) : Int :=
  if denominator ≤ numerator then ((Nat.toDigits 10 (numerator / denominator)).length : Int) - 1
  else
    let inverse := denominator / numerator
    let length := (Nat.toDigits 10 inverse).length
    if 10 ^ (length - 1) == inverse && inverse * numerator == denominator then
      -((length : Int) - 1)
    else -(length : Int)

/-- The rounding interval of a positive number: the exact value and the ends of the interval as
fractions over one denominator, and whether the ends belong to it. -/
structure Interval where
  /-- Numerator of the exact value. -/
  value : Nat
  /-- Numerator of the lower end. -/
  lower : Nat
  /-- Numerator of the upper end. -/
  upper : Nat
  /-- The common denominator. -/
  denominator : Nat
  /-- A number with an even significand also owns the midpoints to its neighbours. -/
  closed : Bool

/-- The interval of numbers that round to `mantissa · 2 ^ exponent`. Below a power of two the
neighbour is half as far away. -/
def Interval.of (mantissa : Nat) (exponent : Int) : Interval :=
  let narrow := mantissa == 2 ^ 52 && exponent != -1074
  let scaled (n : Nat) : Nat := match exponent - 2 with
    | .ofNat e => n * 2 ^ e
    | .negSucc _ => n
  { value := scaled (4 * mantissa)
    lower := scaled (4 * mantissa - if narrow then 1 else 2)
    upper := scaled (4 * mantissa + 2)
    denominator := match exponent - 2 with
      | .ofNat _ => 1
      | .negSucc e => 2 ^ (e + 1)
    closed := mantissa % 2 == 0 }

/-- Membership of the fraction `numerator / scale` in the interval, both sides scaled to integers:
`factor` is what the interval's numerators are multiplied by. -/
def Interval.contains (interval : Interval) (factor point : Nat) : Bool :=
  let lower := interval.lower * factor
  let upper := interval.upper * factor
  if interval.closed then lower ≤ point && point ≤ upper else lower < point && point < upper

/-- The decimal of the interval nearest to its value on the grid of multiples of `10 ^ grid`. -/
def Interval.nearest? (interval : Interval) (grid : Int) : Option Decimal :=
  let (factor, unit) : Nat × Nat := match grid with
    | .ofNat g => (1, interval.denominator * 10 ^ g)
    | .negSucc g => (10 ^ (g + 1), interval.denominator)
  let value := interval.value * factor
  let below := value / unit
  let belowFits := below != 0 && interval.contains factor (below * unit)
  let aboveFits := interval.contains factor ((below + 1) * unit)
  let aboveNearer := 2 * (value % unit) > unit || (2 * (value % unit) == unit && below % 2 == 1)
  if belowFits && !(aboveFits && aboveNearer) then some ⟨below, grid⟩
  else if aboveFits then some ⟨below + 1, grid⟩
  else none

/-- Tries grids from coarse to fine, at most `fuel` of them. -/
def Interval.shortestFrom (interval : Interval) : Nat → Int → Decimal
  | 0, grid => ⟨interval.value / interval.denominator, max grid 0⟩
  | fuel + 1, grid =>
    match interval.nearest? grid with
    | some decimal => decimal
    | none => interval.shortestFrom fuel (grid - 1)

/-- Moves trailing zeros of the digits into the exponent, at most `fuel` of them. -/
def stripZeros : Nat → Decimal → Decimal
  | 0, decimal => decimal
  | fuel + 1, decimal =>
    if decimal.digits != 0 && decimal.digits % 10 == 0 then
      stripZeros fuel ⟨decimal.digits / 10, decimal.exponent + 1⟩
    else decimal

/-- The shortest decimal that reads back as the number, sign aside. Seventeen digits always
suffice. -/
def shortest (x : Binary64) : Decimal :=
  if x.mantissa == 0 then ⟨0, 0⟩
  else
    let interval := Interval.of x.mantissa x.exponent
    stripZeros 17
      (interval.shortestFrom 18 (magnitude interval.value interval.denominator))

/-- The correctly rounded float of `digits · 10 ^ exponent`, infinite when it is too large. The
exponent is compared with the range of the format first, so that no astronomical power is formed. -/
def toFloat (decimal : Decimal) : Float :=
  if decimal.digits == 0 then 0.0
  else
    let leading := ((Nat.toDigits 10 decimal.digits).length : Int) + decimal.exponent
    if 310 < leading then 1.0 / 0.0
    else if leading < -330 then 0.0
    else match decimal.exponent with
      | .ofNat e => Float.ofScientific decimal.digits false e
      | .negSucc e => Float.ofScientific decimal.digits true (e + 1)

end Decimal

end ApiStub
