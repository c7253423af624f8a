import ApiStub.Json.Basic
import ApiStub.Decimal.Shortest
import ApiStub.Text.Digits
import ApiStub.Text.Utf8

/-!
# Reading JSON

A strict reader of the JSON grammar. Besides syntax errors it refuses text nested deeper than
`maxDepth`, numbers too large for a float, and escapes that spell half of a surrogate pair. An
integer keeps its exact value while it fits 64 bits; `-0` is a float, since no integer is it.

Every step takes the remaining characters and answers the value read and what follows it.
-/

namespace ApiStub.Json

/-- Arrays and objects may be nested this deep. -/
def maxDepth : Nat := 127

/-- Drops the four characters that may stand between tokens. -/
def skipSpace (input : List Char) : List Char :=
  input.dropWhile fun c => c == ' ' || c == '\n' || c == '\r' || c == '\t'

/-- Four hexadecimal digits. -/
def readHex4 : List Char → Option (Nat × List Char)
  | a :: b :: c :: d :: rest => do
    let a ← Text.hexDigit? a
    let b ← Text.hexDigit? b
    let c ← Text.hexDigit? c
    let d ← Text.hexDigit? d
    some (((a * 16 + b) * 16 + c) * 16 + d, rest)
  | _ => none

/-- The character of a `\u` escape, whose digits come next; a high surrogate takes the low one
after it. -/
def readUnicodeEscape (input : List Char) : Option (Char × List Char) := do
  let (unit, rest) ← readHex4 input
  if 0xD800 ≤ unit && unit < 0xDC00 then
    match rest with
    | '\\' :: 'u' :: rest =>
      let (low, rest) ← readHex4 rest
      if 0xDC00 ≤ low && low < 0xE000 then
        some (Char.ofNat (0x10000 + (unit - 0xD800) * 0x400 + (low - 0xDC00)), rest)
      else none
    | _ => none
  else if 0xDC00 ≤ unit && unit < 0xE000 then none
  else some (Char.ofNat unit, rest)

/-- The character of a one-letter escape. -/
def simpleEscape? : Char → Option Char
  | '"' => some '"'
  | '\\' => some '\\'
  | '/' => some '/'
  | 'b' => some '\x08'
  | 'f' => some '\x0c'
  | 'n' => some '\n'
  | 'r' => some '\r'
  | 't' => some '\t'
  | _ => none

/-- The rest of a string after its opening quote; `done` holds the characters read so far, last
first. -/
def readStringFrom : Nat → List Char → List Char → Option (String × List Char)
  | 0, _, _ => none
  | _ + 1, _, [] => none
  | _ + 1, done, '"' :: rest => some (String.ofList done.reverse, rest)
  | fuel + 1, done, '\\' :: 'u' :: rest =>
    match readUnicodeEscape rest with
    | some (c, rest) => readStringFrom fuel (c :: done) rest
    | none => none
  | fuel + 1, done, '\\' :: letter :: rest =>
    match simpleEscape? letter with
    | some c => readStringFrom fuel (c :: done) rest
    | none => none
  | fuel + 1, done, c :: rest =>
    if c.toNat < 0x20 || c == '\\' then none else readStringFrom fuel (c :: done) rest

/-- A string after its opening quote. -/
def readString (input : List Char) : Option (String × List Char) :=
  readStringFrom (input.length + 1) [] input

/-- The leading decimal digits of the input, and the rest. -/
def spanDigits (input : List Char) : List Char × List Char :=
  input.span Char.isDigit

/-- The fraction of a number, when one follows: a point and at least one digit. -/
def readFraction : List Char → Option (List Char × List Char)
  | '.' :: rest =>
    let (digits, rest) := spanDigits rest
    if digits.isEmpty then none else some (digits, rest)
  | rest => some ([], rest)

/-- The exponent of a number, when one follows. -/
def readExponent : List Char → Option (Option Int × List Char)
  | mark :: rest =>
    if mark == 'e' || mark == 'E' then
      let (negative, rest) := match rest with
        | '-' :: rest => (true, rest)
        | '+' :: rest => (false, rest)
        | rest => (false, rest)
      let (digits, rest) := spanDigits rest
      if digits.isEmpty then none
      else
        let magnitude : Int := Text.decimal digits
        some (some (if negative then -magnitude else magnitude), rest)
    else some (none, mark :: rest)
  | [] => some (none, [])

/-- An integer literal: exact while it fits, else the nearest float. -/
def ofInteger (negative : Bool) (magnitude : Nat) : Json :=
  if negative then
    if magnitude == 0 then float (-0.0)
    else if magnitude ≤ 2 ^ 63 then int (-magnitude)
    else float (-(Decimal.toFloat ⟨magnitude, 0⟩))
  else if magnitude < 2 ^ 64 then int magnitude
  else float (Decimal.toFloat ⟨magnitude, 0⟩)

/-- A finite number; one beyond the largest float is refused. -/
def finite? : Json → Option Json
  | float x => if x.isFinite then some (float x) else none
  | other => some other

/-- A number after its sign. -/
def readMagnitude (negative : Bool) (input : List Char) : Option (Json × List Char) := do
  let (whole, rest) := spanDigits input
  match whole with
  | [] => none
  | '0' :: _ :: _ => none
  | _ =>
    let (fraction, rest) ← readFraction rest
    let (exponent, rest) ← readExponent rest
    if fraction.isEmpty && exponent.isNone then
      let value ← finite? (ofInteger negative (Text.decimal whole))
      some (value, rest)
    else
      let decimal : Decimal :=
        ⟨Text.decimal (whole ++ fraction), exponent.getD 0 - (fraction.length : Int)⟩
      let x := decimal.toFloat
      let value ← finite? (float (if negative then -x else x))
      some (value, rest)

/-- Reads a word that the input must begin with. -/
def readWord : List Char → List Char → Option (List Char)
  | [], rest => some rest
  | _ :: _, [] => none
  | expected :: word, c :: rest => if c == expected then readWord word rest else none

mutual

/-- One value, with `depth` levels of nesting left. -/
def readValue : Nat → Nat → List Char → Option (Json × List Char)
  | 0, _, _ => none
  | fuel + 1, depth, input =>
    match skipSpace input with
    | [] => none
    | '"' :: rest => (readString rest).map fun (text, rest) => (string text, rest)
    | '[' :: rest =>
      match depth with
      | 0 => none
      | depth + 1 =>
        match skipSpace rest with
        | ']' :: rest => some (array [], rest)
        | rest => (readItems fuel depth [] rest).map fun (items, rest) => (array items, rest)
    | '\x7b' :: rest =>
      match depth with
      | 0 => none
      | depth + 1 =>
        match skipSpace rest with
        | '\x7d' :: rest => some (object [], rest)
        | rest =>
          (readMembers fuel depth [] rest).map fun (members, rest) => (object members, rest)
    | 'n' :: rest => (readWord ['u', 'l', 'l'] rest).map fun rest => (null, rest)
    | 't' :: rest => (readWord ['r', 'u', 'e'] rest).map fun rest => (bool true, rest)
    | 'f' :: rest => (readWord ['a', 'l', 's', 'e'] rest).map fun rest => (bool false, rest)
    | '-' :: rest => readMagnitude true rest
    | rest => readMagnitude false rest

/-- The items of an array up to its closing bracket; `done` holds those read, last first. -/
def readItems : Nat → Nat → List Json → List Char → Option (List Json × List Char)
  | 0, _, _, _ => none
  | fuel + 1, depth, done, input =>
    match readValue fuel depth input with
    | none => none
    | some (item, rest) =>
      match skipSpace rest with
      | ',' :: rest => readItems fuel depth (item :: done) rest
      | ']' :: rest => some ((item :: done).reverse, rest)
      | _ => none

/-- The members of an object up to its closing brace; `done` holds those read. -/
def readMembers : Nat → Nat → Members → List Char → Option (Members × List Char)
  | 0, _, _, _ => none
  | fuel + 1, depth, done, input =>
    match skipSpace input with
    | '"' :: rest =>
      match readString rest with
      | none => none
      | some (name, rest) =>
        match skipSpace rest with
        | ':' :: rest =>
          match readValue fuel depth rest with
          | none => none
          | some (value, rest) =>
            let done := put name value done
            match skipSpace rest with
            | ',' :: rest => readMembers fuel depth done rest
            | '\x7d' :: rest => some (done, rest)
            | _ => none
        | _ => none
    | _ => none

end

/-- The document of a text; `none` when the text is not exactly one JSON value. -/
def parse? (text : String) : Option Json :=
  let input := text.toList
  match readValue (2 * input.length + 2) maxDepth input with
  | some (value, rest) => if (skipSpace rest).isEmpty then some value else none
  | none => none

/-- The document of a sequence of bytes, which must be UTF-8. -/
def parseBytes? (bytes : List UInt8) : Option Json :=
  (Text.decode? bytes).bind parse?

end ApiStub.Json
