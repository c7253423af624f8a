import ApiStub.Api.Schema
import ApiStub.Random.Uniform

/-!
# Numbers within bounds

Integers are drawn from the integers between the bounds that fit 64 bits; where there is none, the
lower bound is rounded. Other numbers are drawn by interpolation between the bounds and rounded to
the wanted places, unless that would leave the bounds.
-/

namespace ApiStub.Mock

open Api (ValueBounds)

/-- The least integer of 64 bits. -/
def leastInt : Int := -(2 ^ 63)

/-- The greatest integer of 64 bits. -/
def greatestInt : Int := 2 ^ 63 - 1

/-- The integer of 64 bits nearest to an integer. -/
def saturate (n : Int) : Int := max leastInt (min n greatestInt)

/-- A float brought to an integer of 64 bits by a rounding of its exact value. Infinities go to
the ends of the range, NaN to zero. -/
def toInt64 (rounding : Binary64 → Int) (x : Float) : Int :=
  match Binary64.ofFloat? x with
  | some value => saturate (rounding value)
  | none => if x.isNaN then 0 else if x < 0.0 then leastInt else greatestInt

/-- A bound that is a number. -/
def realBound (bound : Option Float) : Option Float := bound.filter fun x => !x.isNaN

/-- The least integer within bounds. -/
def lowerInteger (bounds : ValueBounds) : Int :=
  ((realBound bounds.minimum).map (toInt64 Binary64.ceil)).getD leastInt

/-- The greatest integer within bounds. -/
def upperInteger (bounds : ValueBounds) : Int :=
  ((realBound bounds.maximum).map (toInt64 Binary64.floor)).getD greatestInt

/-- An integer within bounds; without one, the minimum rounded. -/
def integer {σ : Type} [WordSource σ] (bounds : ValueBounds) : Draw σ Int :=
  let lower := lowerInteger bounds
  let upper := upperInteger bounds
  if upper < lower then
    pure ((bounds.minimum.map (toInt64 Binary64.round)).getD lower)
  else Draw.intBetween lower upper

/-- The largest float. -/
def greatestFloat : Float := 1.7976931348623157e308

/-- The lower end of the interval a number is drawn from. -/
def lowerNumber (bounds : ValueBounds) : Float :=
  (bounds.minimum.filter Float.isFinite).getD (-greatestFloat)

/-- The upper end of the interval a number is drawn from, not below the lower end. -/
def upperNumber (bounds : ValueBounds) : Float :=
  let upper := (bounds.maximum.filter Float.isFinite).getD greatestFloat
  let lower := lowerNumber bounds
  if lower < upper then upper else lower

/-- Whether a float lies in an interval. -/
def within (lower upper x : Float) : Bool := lower ≤ x && x ≤ upper

/-- An integral float by a rounding of the exact value. -/
def roundedBy (rounding : Binary64 → Int) (x : Float) : Float :=
  match Binary64.ofFloat? x with
  | some value => withSignOf value (rounding value)
  | none => x

/-- A number rounded to decimal places without leaving the interval it lies in. From `2 ^ 52` on,
every scaled number is integral already. -/
def roundInto (value lower upper : Float) (precision : Nat) : Float :=
  let factor := Float.ofNat (10 ^ min precision 15)
  let scaled := value * factor
  if !scaled.isFinite || scaled.abs ≥ 4503599627370496.0 then value
  else
    let rounded := roundedBy Binary64.round scaled / factor
    if within lower upper rounded then rounded
    else
      let rounding := if rounded < lower then Binary64.ceil else Binary64.floor
      let nudged := roundedBy rounding scaled / factor
      if within lower upper nudged then nudged else value

/-- A number limited to an interval. -/
def limit (lower upper x : Float) : Float :=
  let x := if x < lower then lower else x
  if x > upper then upper else x

/-- A number within bounds. Interpolating as a weighted mean cannot overflow. -/
def number {σ : Type} [WordSource σ] (bounds : ValueBounds) (precision : Nat) : Draw σ Float :=
  let lower := lowerNumber bounds
  let upper := upperNumber bounds
  (fun t => roundInto (limit lower upper (lower * (1.0 - t) + upper * t)) lower upper precision)
    <$> Draw.fraction

end ApiStub.Mock
