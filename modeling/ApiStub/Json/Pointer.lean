import ApiStub.Json.Basic
import ApiStub.Text.Digits
import ApiStub.Text.Split

/-!
# JSON pointers

A pointer is empty, for the whole document, or a list of tokens that each follow a slash. In a
token `~1` stands for a slash and `~0` for a tilde. A token steps into an object by name and into
an array by index.
-/

namespace ApiStub.Json

/-- Replaces every `~` that is followed by `mark`. -/
def unescapeTilde (mark replacement : Char) : List Char → List Char
  | '~' :: c :: rest =>
    if c == mark then replacement :: unescapeTilde mark replacement rest
    else '~' :: unescapeTilde mark replacement (c :: rest)
  | c :: rest => c :: unescapeTilde mark replacement rest
  | [] => []

/-- The name that a token spells. -/
def tokenName (token : List Char) : String :=
  String.ofList (unescapeTilde '0' '~' (unescapeTilde '1' '/' token))

/-- The index that a token spells: decimal digits without a leading zero. -/
def tokenIndex? (token : String) : Option Nat :=
  match token.toList with
  | [] => none
  | '0' :: _ :: _ => none
  | digits =>
    if digits.all Char.isDigit then
      some (Text.decimal digits)
    else none

/-- One step into a document. -/
def step? (token : List Char) : Json → Option Json
  | object members => find? members (tokenName token)
  | array items => (tokenIndex? (tokenName token)).bind fun index => items[index]?
  | _ => none

/-- The part of a document that a pointer names. -/
def pointer? (document : Json) (pointer : String) : Option Json :=
  match pointer.toList with
  | [] => some document
  | '/' :: rest =>
    (Text.splitAtChar '/' rest).foldl (fun found token => found.bind (step? token)) (some document)
  | _ => none

end ApiStub.Json
