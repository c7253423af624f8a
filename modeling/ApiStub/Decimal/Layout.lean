import ApiStub.Decimal.Shortest

/-!
# Writing a number

A number is written from the digits of its shortest decimal. What is left to decide is laid down
in a `Layout`: which numbers are written positionally, whether a whole number keeps a fraction,
and what stands for the values that are not finite.
-/

namespace ApiStub

/-- The decisions of one written form. -/
structure Layout where
  /-- Decimal exponents of the first digit that are written positionally. -/
  positional : Int → Bool
  /-- Whether a whole number ends in `.0`. -/
  wholeFraction : Bool
  /-- The text of a value that is no number. -/
  notANumber : String
  /-- The text of an infinite value, after its sign. -/
  infinite : String

namespace Layout

/-- The digits with the point put in; `point` is the number of digits before it. -/
def place (layout : Layout) (digits : List Char) (point : Int) : List Char :=
  match point with
  | .negSucc n => '0' :: '.' :: (List.replicate (n + 1) '0' ++ digits)
  | .ofNat 0 => '0' :: '.' :: digits
  | .ofNat n =>
    if digits.length ≤ n then
      digits ++ List.replicate (n - digits.length) '0' ++
        (if layout.wholeFraction then ['.', '0'] else [])
    else digits.take n ++ '.' :: digits.drop n

/-- Exponential form: one digit before the point, and the exponent with its sign. -/
def exponential (digits : List Char) (exponent : Int) : List Char :=
  let significand := match digits with
    | first :: second :: rest => first :: '.' :: second :: rest
    | short => short
  let sign := if exponent < 0 then '-' else '+'
  significand ++ 'e' :: sign :: Nat.toDigits 10 exponent.natAbs

/-- The text of a number. -/
def write (layout : Layout) (x : Float) : String :=
  match Binary64.ofFloat? x with
  | none =>
    if x.isNaN then layout.notANumber
    else if x < 0.0 then "-" ++ layout.infinite
    else layout.infinite
  | some value =>
    let decimal := Decimal.shortest value
    let digits := Nat.toDigits 10 decimal.digits
    let point := (digits.length : Int) + decimal.exponent
    let body :=
      if layout.positional (point - 1) then layout.place digits point
      else exponential digits (point - 1)
    String.ofList (if value.negative then '-' :: body else body)

end Layout

end ApiStub
