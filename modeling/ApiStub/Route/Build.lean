import ApiStub.Route.Table
import ApiStub.Mock.Value

/-!
# Building a table

A table has one entry for every operation of a description, in order, and then one that says that
the server is alive. The operations are taken in turn: a template is compiled, and bodies are drawn
under it before the next template is looked at. The plan of an operation leaves only its bodies
open, so a random source has no say in anything else.
-/

namespace ApiStub.Route

open Api (Description Operation Schema ResponseKey)
open Http (Method)
open Mock (Maker)

/-- The status of an operation without a JSON body. -/
def bodilessStatus : Nat := 204

/-- The responses of an operation that have a JSON schema. -/
def jsonResponses (operation : Operation) : List (ResponseKey × Schema) :=
  operation.responses.filterMap fun response =>
    response.schemaForJson?.map fun schema => (response.key, schema)

/-- The status to serve: the lowest explicit success, else the first response with a schema. -/
def servedStatus? (operation : Operation) : Option Nat :=
  let keys := (jsonResponses operation).map (·.1)
  ((keys.filter ResponseKey.meansSuccess).map ResponseKey.status).min? <|>
    keys.head?.map ResponseKey.status

/-- The first schema of every status, in order of declaration. -/
def firstByStatus (responses : List (ResponseKey × Schema)) : List (Nat × Schema) :=
  responses.foldl
    (fun chosen (key, schema) =>
      if chosen.any (·.1 == key.status) then chosen else chosen ++ [(key.status, schema)]) []

/-- An entry whose bodies are still to be drawn. -/
structure Plan where
  /-- The method. -/
  method : Method
  /-- The template of its paths. -/
  template : Template
  /-- The status that is served. -/
  status : Nat
  /-- The schemas to draw bodies for, in order. -/
  schemas : List (Nat × Schema)
  /-- The identifier of the operation. -/
  operationId : Option String

/-- The plan of an operation under a template. -/
def Plan.ofOperation (template : String) (operation : Operation) : Except TemplateError Plan := do
  let compiled ← Template.compile template operation
  .ok
    { method := operation.method, template := compiled,
      status := (servedStatus? operation).getD bodilessStatus,
      schemas := firstByStatus (jsonResponses operation),
      operationId := operation.operationId }

/-- Puts a body in front of the first greater status. -/
def insertByStatus (status : Nat) (prepared : Prepared) :
    List (Nat × Prepared) → List (Nat × Prepared)
  | [] => [(status, prepared)]
  | (other, body) :: rest =>
    if status < other then (status, prepared) :: (other, body) :: rest
    else (other, body) :: insertByStatus status prepared rest

section Drawing

variable {σ : Type} [WordSource σ]

/-- Draws bodies in order and keeps them by status. -/
def prepareAll (maker : Maker) :
    List (Nat × Schema) → List (Nat × Prepared) → Draw σ (List (Nat × Prepared))
  | [], ready => pure ready
  | (status, schema) :: rest, ready => do
    let body ← maker.value schema
    prepareAll maker rest (insertByStatus status ⟨schema, body⟩ ready)

/-- The entry of a plan. -/
def Plan.fill (maker : Maker) (plan : Plan) : Draw σ Entry := do
  let responses ← prepareAll maker plan.schemas []
  pure
    { method := plan.method, template := plan.template, status := plan.status, responses,
      origin := .operation plan.operationId }

/-- The entries of some operations in turn, up to the first template that has an error. -/
def fillAll (maker : Maker) :
    List (String × Operation) → List Entry → Draw σ (Except TemplateError (List Entry))
  | [], done => pure (.ok done.reverse)
  | (template, operation) :: rest, done =>
    match Plan.ofOperation template operation with
    | .error error => pure (.error error)
    | .ok plan => do
      let entry ← plan.fill maker
      fillAll maker rest (entry :: done)

end Drawing

/-- The path of the entry that says that the server is alive. -/
def healthPath : String := "/health"

/-- The version that is reported. -/
def version : String := "0.1.0"

/-- What says that the server is alive. -/
def healthDocument : Json := .object [("status", .string "ok"), ("version", .string version)]

/-- The entry that says that the server is alive. -/
def healthEntry : Entry where
  method := .get
  template := .ofLiteral healthPath
  status := 200
  responses := [(200, ⟨Schema.placeholder.replaceExample (some healthDocument), healthDocument⟩)]
  origin := .health

/-- The table of a description. -/
def build {σ : Type} [WordSource σ] (maker : Maker) (description : Description) :
    Draw σ (Except TemplateError Table) :=
  Except.map (fun entries => Table.ofEntries (entries ++ [healthEntry])) <$>
    fillAll maker description.operations []

end ApiStub.Route
