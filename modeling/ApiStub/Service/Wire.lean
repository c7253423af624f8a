import ApiStub.Service.Exchange
import ApiStub.Text.Split

/-!
# Messages as bytes

A request is a head of lines, an empty line, and a body whose length the head declares. A response
is written in the same way. Every connection carries one request and its response.
-/

namespace ApiStub.Service.Wire

open Http (Header Headers Method Response Uri)

/-- The end of a line. -/
def lineEnd : List UInt8 := [13, 10]

/-- The bytes before the first empty line, and those after it. -/
def splitHead : List UInt8 → Option (List UInt8 × List UInt8)
  | 13 :: 10 :: 13 :: 10 :: rest => some ([], rest)
  | byte :: rest => (splitHead rest).map fun (head, body) => (byte :: head, body)
  | [] => none

/-- The lines of a head. -/
def lines : List UInt8 → List (List UInt8)
  | 13 :: 10 :: rest => [] :: lines rest
  | byte :: rest =>
    match lines rest with
    | line :: others => (byte :: line) :: others
    | [] => [[byte]]
  | [] => [[]]

/-- The method and the target of a first line. -/
def readFirstLine? (line : List UInt8) : Option (Method × Uri) := do
  let text ← Text.decode? line
  match (Text.splitAtChar ' ' text.toList).map String.ofList with
  | [token, target, version] =>
    if version.startsWith "HTTP/1." then some (← Method.ofToken? token, ← Uri.read? target)
    else none
  | _ => none

/-- Whether a byte is a space or a tab. -/
def isSpace (byte : UInt8) : Bool := byte == 32 || byte == 9

/-- The bytes without spaces and tabs at their ends. -/
def trimSpaces (bytes : List UInt8) : List UInt8 :=
  ((bytes.dropWhile isSpace).reverse.dropWhile isSpace).reverse

/-- The header of a line. -/
def readHeader? (line : List UInt8) : Option Header := do
  let name ← Text.decode? (line.takeWhile (· != 58))
  match line.dropWhile (· != 58) with
  | _ :: value => Header.of? name (trimSpaces value)
  | [] => none

/-- The request of a head, still without its body. -/
def readHead? (head : List UInt8) : Option Request := do
  match lines head with
  | first :: others =>
    let (method, uri) ← readFirstLine? first
    let headers ← others.mapM readHeader?
    some { method, uri, headers := Headers.ofList headers }
  | [] => none

/-- The longest head that is accepted. -/
def maxHead : Nat := 65536

/-- Whether more bytes will come. -/
inductive Supply where
  /-- They may. -/
  | flowing
  /-- The other end has closed. -/
  | ended
  /-- They have not come in time. -/
  | stalled
  deriving DecidableEq, Repr

/-- What bytes amount to. -/
inductive Received where
  /-- More are needed. -/
  | incomplete
  /-- They begin no request. -/
  | malformed
  /-- A request. -/
  | request (request : Request)
  deriving DecidableEq, Repr

/-- What has been received so far. A head has to be complete; a body may end early, or never. -/
def receive (supply : Supply) (bytes : List UInt8) : Received :=
  match splitHead bytes with
  | none => if supply = .flowing && bytes.length ≤ maxHead then .incomplete else .malformed
  | some (head, rest) =>
    match readHead? head with
    | none => .malformed
    | some request =>
      let length := (declaredLength? request.headers).getD 0
      if length ≤ rest.length then .request { request with body := .complete (rest.take length) }
      else
        match supply with
        | .flowing => .incomplete
        | .ended => .request { request with body := .broken rest }
        | .stalled => .request { request with body := .stalled rest }

/-- A header in a response. -/
def writeHeader (name : String) (value : List UInt8) : List UInt8 :=
  Text.encode (name ++ ": ") ++ value ++ lineEnd

/-- Whether a response with a status says how long its body is. -/
def showsLength (status : Nat) : Bool := 200 ≤ status && status != 204 && status != 304

/-- A response with its headers. -/
def writeResponse (headers : List UInt8) (response : Response) : List UInt8 :=
  let body := Text.encode response.body
  Text.encode ("HTTP/1.1 " ++ toString response.status ++ " " ++
      (Http.reason? response.status).getD "") ++ lineEnd ++
    writeHeader "content-type" (Text.encode Response.mediaType) ++ headers ++
    (if showsLength response.status then
      writeHeader "content-length" (Text.encode (toString body.length)) else []) ++
    writeHeader "connection" (Text.encode "close") ++ lineEnd ++ body

/-- What comes of a request, as it is sent. -/
def Exchange.write (exchange : Exchange) : List UInt8 :=
  writeResponse (writeHeader requestIdHeader exchange.requestId) exchange.response

/-- What is sent when nothing was asked for. -/
def malformedReply : List UInt8 := writeResponse [] (.empty 400)

end ApiStub.Service.Wire
