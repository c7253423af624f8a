import ApiStub.Config.Settings
import ApiStub.Http.Headers
import ApiStub.Http.Uri
import ApiStub.Net.Address
import ApiStub.Service.Redaction

/-!
# The access log

A logged request leaves one event when it arrives and one when it has been answered. In between its
body may be shown: it is read beforehand when it is declared to be JSON of a known, moderate length,
and it is handed on as it was. A body that cannot be read is answered at once.
-/

namespace ApiStub.Service

open Config (Logging)
open Http (Header Headers Method Response Uri)

/-- The body of a request, as reading it shows it: the bytes that come, and what comes after
them. -/
inductive Body where
  /-- It can be read to its end. -/
  | complete (bytes : List UInt8)
  /-- It breaks off. -/
  | broken (bytes : List UInt8 := [])
  /-- It never ends and brings nothing more. -/
  | stalled (bytes : List UInt8 := [])
  deriving DecidableEq, Repr, Inhabited

/-- A request. -/
structure Request where
  /-- The method. -/
  method : Method
  /-- The target. -/
  uri : Uri
  /-- The headers. -/
  headers : Headers := []
  /-- The body. -/
  body : Body := .complete []
  /-- The other end of the connection, when it is known. -/
  client : Option Net.SocketAddress := none
  deriving DecidableEq, Repr

/-- The header that names a request. -/
def requestIdHeader : String := "x-request-id"

/-- The name of a request in the log. -/
def Request.loggedId (request : Request) : String :=
  (request.headers.text? requestIdHeader).getD "unknown"

/-- The client of a request in the log. -/
def Request.loggedClient (request : Request) : String :=
  (request.client.map fun address => address.ip.write).getD "unknown"

/-- What the access log tells of a request. -/
inductive Event where
  /-- It has arrived. -/
  | arrival (method : Method) (uri : Uri) (client : String)
  /-- It has this body. -/
  | body (document : Json)
  /-- It has been answered. -/
  | answer (method : Method) (uri : Uri) (status : Nat)

/-- What the log shows of an event. -/
def Event.text : Event → String
  | arrival method uri _ => "→ " ++ method.token ++ " " ++ uri.write
  | body document => document.write
  | answer method uri status =>
    "← " ++ method.token ++ " " ++ uri.write ++ " - " ++ toString status

/-- Whether requests for a path are logged. -/
def isLogged (logging : Logging) (path : String) : Bool :=
  logging.accessLog && path != Route.healthPath &&
    !logging.excludePaths.any fun start =>
      !start.isEmpty && start.toList.isPrefixOf path.toList

/-- The longest body that is shown. -/
def maxBody : Nat := 65536

/-- The declared length of a body. -/
def declaredLength? (headers : Headers) : Option Nat :=
  ((headers.text? "content-length").bind fun text => Text.unsigned? text.toList).filter
    (· < 2 ^ 64)

/-- Whether a body is read for the log: it is declared to be JSON, with a length that is neither
zero nor too large. -/
def readsBody (headers : Headers) : Bool :=
  ((headers.text? "content-type").map Api.declaresJson).getD false &&
    ((declaredLength? headers).map fun length => 0 < length && length ≤ maxBody).getD false

/-- What comes of reading a body. -/
inductive Reading where
  /-- Its bytes. -/
  | bytes (bytes : List UInt8)
  /-- It cannot be read, or it is too long. -/
  | failed
  /-- Nothing yet, and it never comes to an end. -/
  | pending
  deriving DecidableEq, Repr

/-- Reads a body up to the greatest length. -/
def Body.read : Body → Reading
  | complete bytes => if bytes.length ≤ maxBody then .bytes bytes else .failed
  | broken _ => .failed
  | stalled bytes => if bytes.length ≤ maxBody then .pending else .failed

/-- The answer to a body that cannot be read. -/
def unreadableBody : Response := .error 400 "Failed to read request body"

section

variable {m : Type → Type} [Monad m]

/-- Hands a request on and adds the answer to what has been logged of it. -/
def answered (request : Request) (events : List Event) (handler : Request → m Response) :
    m (Option Response × List Event) := do
  let response ← handler request
  pure (some response, events ++ [.answer request.method request.uri response.status])

/-- Logs a request that a handler answers. Without an answer the request waits for its body. -/
def withAccessLog (logging : Logging) (handler : Request → m Response) (request : Request) :
    m (Option Response × List Event) :=
  if isLogged logging request.uri.path then
    let arrival := Event.arrival request.method request.uri request.loggedClient
    if logging.logBody && readsBody request.headers then
      match request.body.read with
      | .pending => pure (none, [arrival])
      | .failed => pure (some unreadableBody, [arrival])
      | .bytes bytes =>
        let shown := ((shownBody logging.sensitiveFields bytes).map Event.body).toList
        answered { request with body := .complete bytes } (arrival :: shown) handler
    else answered request [arrival] handler
  else do
    let response ← handler request
    pure (some response, [])

end

end ApiStub.Service
