import ApiStub.Service.AccessLog

/-!
# Serving a request

A request gets a name if it has none, goes through the access log to the table, and is given up
when no answer comes in time. The answer to a `HEAD` request loses its body at the end.
-/

namespace ApiStub.Service

open Http (Header Method Response)
open Mock (Maker)

/-- What is needed to answer requests. -/
structure Server where
  /-- The table. -/
  table : Route.Table
  /-- What bodies are drawn with. -/
  maker : Maker := {}
  /-- How bodies are come by. -/
  mode : Route.Mode := .prepared
  /-- What is logged. -/
  logging : Config.Logging := {}

/-- The server of a table under some settings. -/
def Server.of (settings : Config.Settings) (table : Route.Table) : Server where
  table
  maker := { policy := settings.mocking.policy }
  mode := settings.mocking.mode
  logging := settings.logging

/-- What comes of a request. -/
structure Exchange where
  /-- The answer. -/
  response : Response
  /-- The name of the request, which the answer repeats. -/
  requestId : List UInt8
  /-- The name of the request in the log. -/
  loggedId : String
  /-- What was logged. -/
  events : List Event

/-- The answer to a request that has been given up. -/
def timedOut : Response := .error 408 "Request exceeded the configured timeout"

/-- The request with a name: its own, or the given one. -/
def Request.named (fresh : List UInt8) (request : Request) : Request :=
  match request.headers.first? requestIdHeader with
  | some _ => request
  | none => { request with headers := request.headers ++ [⟨requestIdHeader, fresh⟩] }

/-- The name of a request. -/
def Request.id (request : Request) : List UInt8 :=
  ((request.headers.first? requestIdHeader).map (·.value)).getD []

/-- The answer as it is sent: that to a `HEAD` request has no body. -/
def sent (method : Method) (response : Response) : Response :=
  if method == .head then { response with body := "" } else response

variable {σ : Type} [WordSource σ]

/-- The answer of the table to a request. -/
def Server.dispatch (server : Server) (request : Request) : Draw σ Response :=
  let path := request.uri.path
  Route.respond server.maker server.mode (server.table.lookup request.method path)
    request.method path

/-- Serves a request; `fresh` names it if it has no name. -/
def Server.serve (server : Server) (fresh : List UInt8) (request : Request) : Draw σ Exchange := do
  let request := request.named fresh
  let (response?, events) ← withAccessLog server.logging server.dispatch request
  pure
    { response := sent request.method (response?.getD timedOut), requestId := request.id,
      loggedId := request.loggedId, events }

end ApiStub.Service
