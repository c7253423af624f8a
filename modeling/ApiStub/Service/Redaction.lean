import ApiStub.Http.Headers
import ApiStub.Json.Reader

/-!
# What a log may show

Credentials in headers and the values of sensitive members of a body are replaced before anything
is logged. What is below a sensitive member goes with it; everything else stays as it is.
-/

namespace ApiStub.Service

/-- The headers whose values are never shown. -/
def credentialHeaders : List String := ["authorization", "cookie", "x-api-key"]

/-- What a header shows: its text, unless it carries a credential or is no text. -/
def shownValue (header : Http.Header) : String :=
  if credentialHeaders.contains header.name then "[REDACTED]"
  else header.text?.getD "<binary>"

/-- The names of headers with what they show. -/
def shownHeaders (headers : Http.Headers) : List (String × String) :=
  headers.map fun header => (header.name, shownValue header)

/-- The text with small letters for the capitals of ASCII. -/
def foldCase (text : String) : List Char := text.toList.map Char.toLower

/-- Whether a name is one of some fields, in any case. -/
def isSensitive (fields : List String) (name : String) : Bool :=
  fields.any fun field => foldCase field == foldCase name

/-- What stands for a sensitive value. -/
def masked : Json := .string "******"

mutual

/-- A document with the values of sensitive members replaced. -/
def mask (fields : List String) : Json → Json
  | .array items => .array (maskItems fields items)
  | .object members => .object (maskMembers fields members)
  | .null => .null
  | .bool value => .bool value
  | .int value => .int value
  | .float value => .float value
  | .string value => .string value

/-- The items of an array with the values of sensitive members replaced. -/
def maskItems (fields : List String) : List Json → List Json
  | [] => []
  | item :: rest => mask fields item :: maskItems fields rest

/-- The members of an object with the sensitive ones replaced. -/
def maskMembers (fields : List String) : List (String × Json) → List (String × Json)
  | [] => []
  | (name, value) :: rest =>
    (name, if isSensitive fields name then masked else mask fields value) ::
      maskMembers fields rest

end

/-- A body as it may be shown; none when it is empty or no JSON. -/
def shownBody (fields : List String) (bytes : List UInt8) : Option Json :=
  if bytes.isEmpty then none else (Json.parseBytes? bytes).map (mask fields)

end ApiStub.Service
