import ApiStub.Http.Method
import ApiStub.Http.Status
import ApiStub.Json.Writer

/-!
# Responses

A response is a status and a body, which is the text of a JSON document or empty. Errors are JSON
documents, too.
-/

namespace ApiStub.Http

/-- What a request is answered with. -/
structure Response where
  /-- The status code. -/
  status : Nat
  /-- The body. -/
  body : String
  deriving DecidableEq, Repr, Inhabited

namespace Response

/-- The media type that every response declares. -/
def mediaType : String := "application/json"

/-- A document as the body. -/
def json (status : Nat) (document : Json) : Response := ⟨status, document.write⟩

/-- No body. -/
def empty (status : Nat) : Response := ⟨status, ""⟩

/-- An error with a name and a message. -/
def failure (status : Nat) (name message : String) : Response :=
  json status (.object [("error", .string name), ("message", .string message)])

/-- An error that is named by its status. -/
def error (status : Nat) (message : String) : Response :=
  failure status ((reason? status).getD "Error") message

/-- The error for a fault of the server. -/
def serverFault (message : String) : Response := error 500 message

/-- The answer to a request that nothing is declared for. -/
def notFound (method : Method) (path : String) : Response :=
  json 404 (.object [("error", .string "Not Found"), ("message", .string "Endpoint not found"),
    ("method", .string method.token), ("path", .string path)])

end Response

end ApiStub.Http
