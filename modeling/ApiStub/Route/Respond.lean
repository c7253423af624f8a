import ApiStub.Http.Response
import ApiStub.Route.Build
import ApiStub.Route.Lookup

/-!
# Answering a request

A request is answered with the body that is ready for its entry, or, when bodies are drawn live,
with a new value of the schema of that body. The status is the same either way.
-/

namespace ApiStub.Route

open Http (Method Response)
open Mock (Maker)

variable {σ : Type} [WordSource σ]

/-- How bodies are come by. -/
inductive Mode where
  /-- The bodies that are ready are served. -/
  | prepared
  /-- A new body is drawn for every request. -/
  | live
  deriving DecidableEq, Repr

/-- The body to serve for what is ready. -/
def Prepared.serve (maker : Maker) (mode : Mode) (prepared : Prepared) :
    Draw σ Json :=
  match mode with
  | .prepared => pure prepared.body
  | .live => maker.value prepared.schema

/-- The answer of an entry. -/
def Entry.respond (maker : Maker) (mode : Mode) (entry : Entry) : Draw σ Response :=
  if entry.reportsHealth then pure (.json 200 healthDocument)
  else
    let (status, prepared?) := entry.response
    if !Http.isStatus status then pure (.serverFault "Route has an invalid status code")
    else
      match prepared? with
      | none => pure (.empty status)
      | some prepared => Response.json status <$> prepared.serve maker mode

/-- The answer to a request that has been looked up. -/
def respond (maker : Maker) (mode : Mode) (lookup : Lookup) (method : Method)
    (path : String) : Draw σ Response :=
  match lookup with
  | .found entry _ => entry.respond maker mode
  | .notFound => pure (.notFound method path)

end ApiStub.Route
