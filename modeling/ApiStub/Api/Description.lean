import ApiStub.Api.MediaType
import ApiStub.Api.Schema
import ApiStub.Http.Method
import ApiStub.Text.Digits

/-!
# API descriptions

What is kept of an OpenAPI document: its paths with their operations, the parameters of an
operation, and the response schemas by status and media type.
-/

namespace ApiStub.Api

/-- Where a request carries a parameter. -/
inductive ParameterLocation where
  | path
  | query
  | header
  | cookie
  deriving DecidableEq, Repr

namespace ParameterLocation

/-- The location that a keyword names. -/
def ofKeyword? (keyword : String) : Option ParameterLocation :=
  match keyword with
  | "path" => some .path
  | "query" => some .query
  | "header" => some .header
  | "cookie" => some .cookie
  | _ => none

/-- The keyword of a location. -/
def keyword : ParameterLocation → String
  | path => "path"
  | query => "query"
  | header => "header"
  | cookie => "cookie"

@[simp]
theorem ofKeyword?_keyword (location : ParameterLocation) :
    ofKeyword? location.keyword = some location := by
  cases location <;> rfl

end ParameterLocation

/-- The type of a parameter, as far as matching a path needs it. -/
inductive ParameterType where
  | string
  | integer
  | number
  | boolean
  | other
  deriving DecidableEq, Repr

/-- The parameter type of a type keyword. -/
def ParameterType.ofKeyword (keyword : Option String) : ParameterType :=
  match keyword with
  | some "string" => .string
  | some "integer" => .integer
  | some "number" => .number
  | some "boolean" => .boolean
  | _ => .other

/-- A parameter of an operation. -/
structure Parameter where
  /-- Its name. -/
  name : String
  /-- Where the request carries it. -/
  location : ParameterLocation
  /-- Its type. -/
  type : ParameterType
  /-- Whether a request must have it. -/
  required : Bool
  deriving DecidableEq, Repr

/-- Two parameters with one name and one location are one parameter. -/
def Parameter.same (first second : Parameter) : Bool :=
  first.name == second.name && first.location == second.location

/-- Puts a parameter in the place of the first that is the same one, or at the end. -/
def overrideParameter (parameter : Parameter) : List Parameter → List Parameter
  | [] => [parameter]
  | first :: rest =>
    if first.same parameter then parameter :: rest
    else first :: overrideParameter parameter rest

/-- The parameters of an operation: those of its path, overridden and extended by its own. -/
def mergeParameters (shared own : List Parameter) : List Parameter :=
  own.foldl (fun parameters parameter => overrideParameter parameter parameters) shared

/-- The key a response is declared under. -/
inductive ResponseKey where
  /-- A status code. -/
  | code (status : Nat)
  /-- The response for every other status; it is served as 200. -/
  | otherwise
  deriving DecidableEq, Repr

namespace ResponseKey

/-- The key that a text spells: `default`, or a status from 100 to 599. -/
def ofText? (key : String) : Option ResponseKey :=
  if key == "default" then some .otherwise
  else (Text.unsigned? key.toList).bind fun status =>
    if 100 ≤ status && status ≤ 599 then some (.code status) else none

/-- The status that a response under this key is served with. -/
def status : ResponseKey → Nat
  | code status => status
  | otherwise => 200

/-- Whether the key is an explicit success code. -/
def meansSuccess : ResponseKey → Bool
  | code status => 200 ≤ status && status < 300
  | otherwise => false

theorem status_of_ofText? {key : String} {parsed : ResponseKey}
    (found : ofText? key = some parsed) :
    100 ≤ parsed.status ∧ parsed.status ≤ 599 := by
  unfold ofText? at found
  split at found
  · cases found
    exact ⟨by decide, by decide⟩
  · obtain ⟨status, _, inRange⟩ := Option.bind_eq_some_iff.mp found
    split at inRange
    · rename_i bounds
      cases inRange
      simpa [ResponseKey.status] using bounds
    · cases inRange

end ResponseKey

/-- A declared response. -/
structure Response where
  /-- The key it is declared under. -/
  key : ResponseKey
  /-- Its media types with their schemas, in order of declaration. -/
  content : List (String × Option Schema)

/-- The schema of the first JSON media type that has one. -/
def Response.schemaForJson? (response : Response) : Option Schema :=
  (response.content.filter fun media => declaresJson media.1).findSome? (·.2)

/-- One operation of a path. -/
structure Operation where
  /-- The method it answers. -/
  method : Http.Method
  /-- The identifier it is declared with. -/
  operationId : Option String := none
  /-- Its one-line summary. -/
  summary : Option String := none
  /-- Its parameters, those of the path included. -/
  parameters : List Parameter := []
  /-- Its responses, in order of declaration. -/
  responses : List Response := []

/-- The path parameter of a name. -/
def Operation.declaredParameter? (operation : Operation) (name : String) : Option Parameter :=
  operation.parameters.find? fun parameter =>
    parameter.location == .path && parameter.name == name

/-- A path with its operations. -/
structure Path where
  /-- The template of the path. -/
  template : String
  /-- Its operations, in order of declaration. -/
  operations : List Operation

/-- What is kept of an OpenAPI document. -/
structure Description where
  /-- The version of OpenAPI it is written in. -/
  openapi : String
  /-- The title of the interface. -/
  title : Option String
  /-- The version of the interface. -/
  version : Option String
  /-- Its paths, in order of declaration. -/
  paths : List Path
  /-- How many schemas its components declare. -/
  schemaCount : Nat

/-- Counts shown to the user. -/
structure Summary where
  openapi : String
  title : String
  paths : Nat
  operations : Nat
  schemas : Nat
  deriving DecidableEq, Repr

namespace Description

/-- Every operation with the template of its path, in order of declaration. -/
def operations (description : Description) : List (String × Operation) :=
  description.paths.flatMap fun path => path.operations.map fun operation =>
    (path.template, operation)

/-- The counts of a description. -/
def summary (description : Description) : Summary where
  openapi := description.openapi
  title := description.title.getD "N/A"
  paths := description.paths.length
  operations := (description.paths.map fun path => path.operations.length).sum
  schemas := description.schemaCount

end Description

end ApiStub.Api
