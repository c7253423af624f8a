import ApiStub.Json.Basic
import ApiStub.Decimal.Layout

/-!
# Writing JSON

The compact text of a document: no spaces, no escapes beyond the ones JSON demands.
-/

namespace ApiStub.Json

/-- Numbers keep a fraction, and are positional while the exponent of the first digit is in
`-5 .. 15`. A value without a JSON form is written as `null`. -/
def numberLayout : Layout where
  positional exponent := -5 ≤ exponent && exponent ≤ 15
  wholeFraction := true
  notANumber := "null"
  infinite := "null"

/-- The text of a float; infinities and NaN have none and become `null`. -/
def writeFloat (x : Float) : String :=
  if x.isFinite then numberLayout.write x else "null"

/-- The escape of a character inside a string: a letter for the five controls that have one, four
hexadecimal digits for the other controls. -/
def escape (c : Char) : List Char :=
  match c with
  | '"' => ['\\', '"']
  | '\\' => ['\\', '\\']
  | '\x08' => ['\\', 'b']
  | '\x0c' => ['\\', 'f']
  | '\n' => ['\\', 'n']
  | '\r' => ['\\', 'r']
  | '\t' => ['\\', 't']
  | c =>
    if c.toNat < 0x20 then
      let digits := Nat.toDigits 16 c.toNat
      ['\\', 'u'] ++ List.replicate (4 - digits.length) '0' ++ digits
    else [c]

/-- A string in quotes. -/
def writeString (text : String) : String :=
  String.ofList ('"' :: (text.toList.flatMap escape ++ ['"']))

mutual

/-- The compact text of a document. -/
def write : Json → String
  | null => "null"
  | bool true => "true"
  | bool false => "false"
  | int value => toString value
  | float value => writeFloat value
  | string value => writeString value
  | array items => "[" ++ String.intercalate "," (writeItems items) ++ "]"
  | object members => "\x7b" ++ String.intercalate "," (writeMembers members) ++ "\x7d"

/-- The texts of the items of an array. -/
def writeItems : List Json → List String
  | [] => []
  | item :: rest => write item :: writeItems rest

/-- The texts of the members of an object. -/
def writeMembers : List (String × Json) → List String
  | [] => []
  | (name, value) :: rest => (writeString name ++ ":" ++ write value) :: writeMembers rest

end

end ApiStub.Json
