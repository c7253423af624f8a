import ApiStub.Json.Basic
import ApiStub.Http.Uri
import ApiStub.Text.Digits
import ApiStub.Text.Utf8

/-!
# Query parameters

A query is a list of pairs between ampersands. In a name or a value a plus sign stands for a space,
and `%` with two hexadecimal digits for a byte. Bytes that are no text are replaced.
-/

namespace ApiStub.Http

/-- The byte that `%` and the two digits after it stand for. -/
def escapedByte? (byte : UInt8) (rest : List UInt8) : Option UInt8 :=
  match rest with
  | high :: low :: _ =>
    if byte == '%'.toUInt8 then do
      let high ← Text.hexDigit? (Char.ofUInt8 high)
      let low ← Text.hexDigit? (Char.ofUInt8 low)
      some (high * 16 + low).toUInt8
    else none
  | _ => none

/-- The bytes of a part of a query after `skip` bytes that have been taken already. A `%` without
two digits after it stands for itself. -/
def formBytes : (skip : Nat) → List UInt8 → List UInt8
  | _, [] => []
  | skip + 1, _ :: rest => formBytes skip rest
  | 0, byte :: rest =>
    if byte == '+'.toUInt8 then ' '.toUInt8 :: formBytes 0 rest
    else
      match escapedByte? byte rest with
      | some escaped => escaped :: formBytes 2 rest
      | none => byte :: formBytes 0 rest

/-- The text of a part of a query. -/
def formText (part : List Char) : String :=
  Text.decodeLossy (formBytes 0 (Text.encode (String.ofList part)))

/-- A pair: what stands before the first equals sign, and what stands after it. -/
def formPair (part : List Char) : String × String :=
  let name := part.takeWhile (· != '=')
  (formText name, formText (part.drop (name.length + 1)))

/-- The pairs of a query, in order. Empty parts are none. -/
def formPairs (query : String) : List (String × String) :=
  ((Text.splitAtChar '&' query.toList).filter fun part => !part.isEmpty).map formPair

/-- Puts a pair into a list that is sorted by name, in the place of one with the same name. -/
def insertPair (name value : String) : List (String × String) → List (String × String)
  | [] => [(name, value)]
  | (other, old) :: rest =>
    if name == other then (name, value) :: rest
    else if name < other then (name, value) :: (other, old) :: rest
    else (other, old) :: insertPair name value rest

/-- The parameters of a target, sorted by name; of several with one name the last counts. -/
def Uri.queryParameters (uri : Uri) : List (String × String) :=
  (formPairs (uri.query.getD "")).foldl
    (fun parameters (name, value) => insertPair name value parameters) []

end ApiStub.Http
