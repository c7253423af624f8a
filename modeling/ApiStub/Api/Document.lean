import ApiStub.Api.Description
import ApiStub.Api.Expansion

/-!
# Reading a description out of a document

`Description.ofDocument` never fails: an entry that cannot be used is left out. A reference in the
place of a path, a parameter or a response is followed like one in the place of a schema, and what
it spends of the allowance is spent for everything beneath it.
-/

namespace ApiStub.Api

/-- The keys of a path that declare operations. -/
def methodKeys : List String :=
  ["get", "put", "post", "delete", "options", "head", "patch", "trace"]

/-- The text of a member of a document. -/
def memberText? (document : Json) (name : String) : Option String :=
  (document.get? name).bind Json.string?

/-- A parameter, when it has a name and a known location. Its type is declared by its schema, or
beside the name when it has none that can be followed. -/
def parameter? (root : Json) (allowance : Nat) (value : Json) : Option Parameter := do
  let (value, allowance) ← follow? root allowance value
  let members ← value.members?
  let name ← textOf? members "name"
  let location ← (textOf? members "in").bind ParameterLocation.ofKeyword?
  let typed := match (Json.find? members "schema").bind (follow? root allowance) with
    | some (schema, _) => schema
    | none => value
  let required := (Json.find? members "required").bind Json.bool?
  some
    { name, location
      type := ParameterType.ofKeyword (declaredType? typed)
      required := required.getD (location == .path) }

/-- The usable parameters of a list. -/
def parameters (root : Json) (allowance : Nat) (value : Option Json) : List Parameter :=
  ((value.bind Json.items?).getD []).filterMap (parameter? root allowance)

/-- A response, when its key is a status and its reference can be followed. -/
def response? (root : Json) (allowance : Nat) (key : String) (value : Json) : Option Response := do
  let key ← ResponseKey.ofText? key
  let (value, allowance) ← follow? root allowance value
  let content := ((value.get? "content").bind Json.members?).getD []
  some
    { key
      content := content.map fun (mediaType, media) =>
        (mediaType, (media.get? "schema").map fun schema => expand root schema allowance) }

/-- An operation, when its value is an object. -/
def operation? (root : Json) (allowance : Nat) (shared : List Parameter) (key : String)
    (value : Json) : Option Operation := do
  let members ← value.members?
  let responses := ((Json.find? members "responses").bind Json.members?).getD []
  some
    { method := ⟨key.toUpper⟩
      operationId := textOf? members "operationId"
      summary := textOf? members "summary"
      parameters :=
        mergeParameters shared (parameters root allowance (Json.find? members "parameters"))
      responses := responses.filterMap fun (key, value) => response? root allowance key value }

/-- A path, when its value is an object. -/
def path? (root : Json) (allowance : Nat) (template : String) (value : Json) : Option Path := do
  let (value, allowance) ← follow? root allowance value
  let members ← value.members?
  let shared := parameters root allowance (Json.find? members "parameters")
  let declared := members.filter fun member => methodKeys.contains member.1
  some
    { template
      operations := declared.filterMap fun (key, value) =>
        operation? root allowance shared key value }

/-- What is kept of a document. `allowance` references may be followed on every branch. -/
def Description.ofDocument (document : Json) (allowance : Nat) : Description where
  openapi := (memberText? document "openapi").getD ""
  title := (document.get? "info").bind fun info => memberText? info "title"
  version := (document.get? "info").bind fun info => memberText? info "version"
  paths := (((document.get? "paths").bind Json.members?).getD []).filterMap
    fun (template, value) => path? document allowance template value
  schemaCount :=
    (((Json.pointer? document "/components/schemas").bind Json.members?).map List.length).getD 0

end ApiStub.Api
