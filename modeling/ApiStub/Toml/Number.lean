import ApiStub.Decimal.Shortest
import ApiStub.Text.Digits
import ApiStub.Text.Split
import ApiStub.Toml.Value

/-!
# Numbers, dates and truth values of TOML

A number, a truth value or the name of a special float reaches up to the next character that can
be no part of one. Underscores may separate digits. Integers have 64 bits; a float that is too
large is an error unless it is negative.
-/

namespace ApiStub.Toml

/-- Whether a text is digits in groups that single underscores separate. -/
def isGrouped (isDigit : Char → Bool) (chars : List Char) : Bool :=
  (Text.splitAtChar '_' chars).all fun group => !group.isEmpty && group.all isDigit

/-- The digits of a number without their separators. -/
def digitsOf (chars : List Char) : List Char := chars.filter (· != '_')

/-- Whether a text is a decimal integer without a sign: no zero in front of other digits. -/
def isWhole (chars : List Char) : Bool :=
  chars == ['0'] || (isGrouped Char.isDigit chars && chars.head? != some '0')

/-- Splits off the sign of a number; the flag says whether it is negative. -/
def splitSign : List Char → Bool × List Char
  | '-' :: rest => (true, rest)
  | '+' :: rest => (false, rest)
  | rest => (false, rest)

/-- An integer that fits 64 bits. -/
def integer? (value : Int) : Option Toml :=
  if -(2 ^ 63) ≤ value && value < 2 ^ 63 then some (.integer value) else none

/-- An integer in a base other than ten. -/
def basedInteger? (base : Nat) (digits : List Char) : Option Toml :=
  if isGrouped (fun c => ((Text.hexDigit? c).filter (· < base)).isSome) digits then
    (Text.ofBase? base (digitsOf digits)).bind fun value => integer? value
  else none

/-- The exponent of a float: nothing, or a mark with an integer that may begin with zeros. -/
def exponent? : List Char → Option Int
  | [] => some 0
  | mark :: rest =>
    if mark == 'e' || mark == 'E' then
      let (negative, digits) := splitSign rest
      if isGrouped Char.isDigit digits then
        let value : Int := Text.decimal (digitsOf digits)
        some (if negative then -value else value)
      else none
    else none

/-- A float with a sign. Only negative ones may be too large. -/
def signedFloat? (negative : Bool) (decimal : Decimal) : Option Toml :=
  let x := decimal.toFloat
  if negative then some (.float (-x))
  else if x.isFinite then some (.float x) else none

/-- A decimal number without its sign: an integer, or a float with a fraction, an exponent, or
both. -/
def decimalNumber? (negative : Bool) (chars : List Char) : Option Toml :=
  let part (c : Char) : Bool := c.isDigit || c == '_'
  let (whole, rest) := chars.span part
  if !isWhole whole then none
  else
    match rest with
    | [] =>
      let value : Int := Text.decimal (digitsOf whole)
      integer? (if negative then -value else value)
    | '.' :: rest =>
      let (fraction, rest) := rest.span part
      if isGrouped Char.isDigit fraction then
        (exponent? rest).bind fun exponent =>
          let digits := digitsOf fraction
          signedFloat? negative
            ⟨Text.decimal (digitsOf whole ++ digits), exponent - digits.length⟩
      else none
    | _ => (exponent? rest).bind fun exponent =>
      signedFloat? negative ⟨Text.decimal (digitsOf whole), exponent⟩

/-- The value of a word: a truth value, a number, or a special float. -/
def ofWord? (word : List Char) : Option Toml :=
  match word with
  | '0' :: 'x' :: digits => basedInteger? 16 digits
  | '0' :: 'o' :: digits => basedInteger? 8 digits
  | '0' :: 'b' :: digits => basedInteger? 2 digits
  | _ =>
    if word == "true".toList then some (.boolean true)
    else if word == "false".toList then some (.boolean false)
    else
      let (negative, rest) := splitSign word
      if rest == "inf".toList then some (.float (if negative then -1.0 / 0.0 else 1.0 / 0.0))
      else if rest == "nan".toList then some (.float (0.0 / 0.0))
      else decimalNumber? negative rest

/-- Reads a number of exactly so many digits that lies between two bounds. -/
def readField (count least greatest : Nat) (input : List Char) : Option (Nat × List Char) :=
  let digits := input.take count
  let value := Text.decimal digits
  if digits.length == count && digits.all Char.isDigit && least ≤ value && value ≤ greatest then
    some (value, input.drop count)
  else none

/-- Reads a character that has to stand here. -/
def readMark (mark : Char) : List Char → Option (List Char)
  | [] => none
  | c :: rest => if c == mark then some rest else none

/-- How many days a month has. -/
def daysInMonth (year month : Nat) : Nat :=
  if month == 2 then
    if year % 4 == 0 && (year % 100 != 0 || year % 400 == 0) then 29 else 28
  else if month == 4 || month == 6 || month == 9 || month == 11 then 30
  else 31

/-- Reads a date of the calendar. -/
def readDate (input : List Char) : Option (List Char) := do
  let (year, rest) ← readField 4 0 9999 input
  let (month, rest) ← readField 2 1 12 (← readMark '-' rest)
  let (_, rest) ← readField 2 1 (daysInMonth year month) (← readMark '-' rest)
  some rest

/-- Reads hours and minutes. -/
def readClock (input : List Char) : Option (List Char) := do
  let (_, rest) ← readField 2 0 23 input
  let (_, rest) ← readField 2 0 59 (← readMark ':' rest)
  some rest

/-- Drops a fraction of a second, if one stands here. -/
def skipFraction : List Char → List Char
  | '.' :: c :: rest => if c.isDigit then rest.dropWhile Char.isDigit else '.' :: c :: rest
  | rest => rest

/-- Reads a time of day. -/
def readTime (input : List Char) : Option (List Char) := do
  let (_, rest) ← readField 2 0 60 (← readMark ':' (← readClock input))
  some (skipFraction rest)

/-- Reads the distance from universal time, if one stands here. -/
def readOffset : List Char → Option (List Char)
  | c :: rest =>
    if c == 'Z' || c == 'z' then some rest
    else if c == '+' || c == '-' then readClock rest
    else some (c :: rest)
  | [] => some []

/-- Whether a time of day seems to begin: two digits with a colon. -/
def startsTime : List Char → Bool
  | a :: b :: c :: _ => a.isDigit && b.isDigit && c == ':'
  | _ => false

/-- Whether a date seems to begin: four digits with a hyphen. -/
def startsDate (input : List Char) : Bool :=
  (input.take 4).all Char.isDigit && (input.drop 4).head? == some '-'

/-- Reads a date with the time that may follow it. -/
def readDateTime (input : List Char) : Option (List Char) := do
  let rest ← readDate input
  match rest with
  | c :: after =>
    if (c == 'T' || c == 't' || c == ' ') && startsTime after then
      readOffset (← readTime after)
    else some rest
  | [] => some []

/-- Whether a character can be part of a number or a word. -/
def isWordChar (c : Char) : Bool := c.isAlphanum || c == '_' || c == '+' || c == '-' || c == '.'

/-- Reads a number, a truth value, a date or a time. -/
def readWord (input : List Char) : Option (Toml × List Char) :=
  if startsDate input then (readDateTime input).map fun rest => (.datetime, rest)
  else if startsTime input then (readTime input).map fun rest => (.datetime, rest)
  else (ofWord? (input.takeWhile isWordChar)).map fun value => (value, input.dropWhile isWordChar)

end ApiStub.Toml
