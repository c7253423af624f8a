import ApiStub.Http.Method

/-!
# Headers

A header has a name that is a token, compared without case, and a value of bytes. Values of one
name belong together: they are listed at the place of the first of them.
-/

namespace ApiStub.Http

/-- Whether a byte may stand in a value: a tab, or anything but control characters. -/
def isValueByte (byte : UInt8) : Bool := byte == 9 || (32 ≤ byte && byte != 127)

/-- A header. -/
structure Header where
  /-- The name in small letters. -/
  name : String
  /-- The value. -/
  value : List UInt8
  deriving DecidableEq, Repr, Inhabited

/-- The header of a name and a value, when they are allowed. -/
def Header.of? (name : String) (value : List UInt8) : Option Header :=
  if isToken name && value.all isValueByte then
    some ⟨String.ofList (name.toList.map Char.toLower), value⟩
  else none

/-- The value as text, when it is printable ASCII and tabs. -/
def Header.text? (header : Header) : Option String :=
  if header.value.all fun byte => byte == 9 || (32 ≤ byte && byte ≤ 126) then
    some (String.ofList (header.value.map Char.ofUInt8))
  else none

/-- Headers in order. -/
abbrev Headers := List Header

namespace Headers

/-- Adds a header after the last one of its name, or at the end. -/
def add (headers : Headers) (header : Header) : Headers :=
  match headers with
  | [] => [header]
  | first :: rest =>
    if first.name == header.name && !rest.any (·.name == header.name) then
      first :: header :: rest
    else first :: add rest header

/-- The headers of a list, those of one name together. -/
def ofList (headers : List Header) : Headers := headers.foldl add []

/-- The first header of a name. -/
def first? (headers : Headers) (name : String) : Option Header :=
  headers.find? (·.name == name)

/-- The text of the first header of a name. -/
def text? (headers : Headers) (name : String) : Option String :=
  (headers.first? name).bind Header.text?

end Headers

end ApiStub.Http
