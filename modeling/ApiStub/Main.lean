import ApiStub.CommandLine.Outcome
import ApiStub.Service.Wire
import Std.Async

/-!
# The program

Reads the files that a command names, performs it, and serves its run until a signal asks for a
stop. All that is decided here is when to read and when to write.
-/

namespace ApiStub.Main

open CommandLine (Command Outcome)
open Running (Run)
open Std.Async (Async Selectable Selector Signal)
open Std.Async.TCP.Socket (Client)

/-- Words that nobody can foresee. -/
def freshWords : IO ChaChaWords := do
  let bytes ← IO.getRandomBytes 8
  pure (ChaChaWords.ofSeed (bytes.foldl (fun seed byte => seed * 256 + byte.toUInt64) 0))

/-- What stands under a path. What is there and cannot be read holds no text, like a folder. -/
def look (path : String) : IO (Option Files.Item) := do
  try
    let bytes ← IO.FS.readBinFile path
    pure (some (.file bytes.toList))
  catch
    | .noFileOrDirectory .. => pure none
    | _ => pure (some .folder)

/-- What the server keeps between requests. -/
structure State where
  /-- The run. -/
  run : Run
  /-- The words that were not taken yet. -/
  words : ChaChaWords

/-- Brings a watched run up to date with what stands under its path. -/
def refresh (state : IO.Ref State) : IO Unit := do
  let run := (← state.get).run
  if run.watched then
    let item ← look run.path
    if item != run.item then
      let fresh ← freshWords
      state.modify fun state =>
        { state with run := state.run.steps [.write item, .report fresh, .install] }

/-- Answers a request. -/
def answer (state : IO.Ref State) (request : Service.Request) : IO Service.Exchange := do
  refresh state
  state.modifyGet fun state =>
    let (exchange, words) := (do
      let name ← Mock.uuid
      state.run.reply (Text.encode (String.ofList name)) (state.run.call request) :
        Draw ChaChaWords _).run state.words
    (exchange, { state with words })

/-- The address of a connection's other end, as far as it is known. -/
def clientOf (client : Client) : IO (Option Net.SocketAddress) := do
  try
    match ← client.getPeerName with
    | .v4 address =>
      pure (some ⟨.v4 (address.addr.octets.toList.map UInt8.toNat), address.port.toNat⟩)
    | .v6 address =>
      pure (some ⟨.v6 (address.addr.segments.toList.map UInt16.toNat), address.port.toNat⟩)
  catch _ => pure none

/-- Receives bytes until they make a request or cannot make one. -/
partial def receive (client : Client) (patience : Nat) (bytes : List UInt8) :
    Async Service.Wire.Received := do
  match Service.Wire.receive .flowing bytes with
  | .incomplete =>
    let timer ← Selector.sleep (.ofNat (patience * 1000))
    let (supply, more) ← Selectable.one #[
      .case (client.recvSelector 65536) fun chunk =>
        pure (match chunk with
          | some chunk => (Service.Wire.Supply.flowing, chunk.toList)
          | none => (Service.Wire.Supply.ended, [])),
      .case timer fun _ => pure (Service.Wire.Supply.stalled, [])]
    if supply = .flowing then receive client patience (bytes ++ more)
    else pure (Service.Wire.receive supply bytes)
  | received => pure received

/-- Serves one connection. -/
def converse (state : IO.Ref State) (client : Client) : Async Unit := do
  try
    let patience := (← state.get).run.settings.server.requestTimeout
    match ← receive client patience [] with
    | .request request =>
      let exchange ← answer state { request with client := ← clientOf client }
      for event in exchange.events do
        IO.println event.text
      client.send ⟨(Service.Wire.Exchange.write exchange).toArray⟩
    | _ => client.send ⟨Service.Wire.malformedReply.toArray⟩
    client.shutdown
  catch _ => pure ()

/-- A socket address for the system. -/
def systemAddress (address : Net.SocketAddress) : Std.Net.SocketAddress :=
  let port := address.port.toUInt16
  match address.ip with
  | .v4 bytes =>
    let byte (index : Nat) : UInt8 := (bytes.getD index 0).toUInt8
    .v4 ⟨.ofParts (byte 0) (byte 1) (byte 2) (byte 3), port⟩
  | .v6 groups =>
    let group (index : Nat) : UInt16 := (groups.getD index 0).toUInt16
    .v6 ⟨.ofParts (group 0) (group 1) (group 2) (group 3) (group 4) (group 5) (group 6) (group 7),
      port⟩

/-- Accepts connections until a signal asks for a stop. -/
partial def accept (server : Std.Async.TCP.Socket.Server) (signals : List Signal.Waiter)
    (state : IO.Ref State) : Async Unit := do
  let stops := signals.map fun signal => Selectable.case signal.selector fun _ => pure none
  let client? ← Selectable.one
    (#[.case server.acceptSelector fun client => pure (some client)] ++ stops.toArray)
  match client? with
  | some client =>
    Std.Async.background (converse state client)
    accept server signals state
  | none => pure ()

/-- Serves a run at an address. -/
def serve (address : Net.SocketAddress) (run : Run) : IO Unit := do
  -- Only what changes from now on is noticed, so what stands under the path by now is no change.
  let run := { run with item := ← look run.path }
  let state ← IO.mkRef { run, words := ← freshWords }
  let server ← Std.Async.TCP.Socket.Server.mk
  server.bind (systemAddress address)
  server.listen 1024
  let signals ← [Signal.sigint, Signal.sigterm].mapM fun signal => Signal.Waiter.mk signal false
  Async.block (accept server signals state)

/-- Performs a command and tells the status to end with. -/
def perform (command : Command) : IO UInt32 := do
  let items ← command.paths.mapM fun path => do pure (path, ← look path)
  let outcome := command.perform (fun path => (items.lookup path).join) (← freshWords)
  IO.print outcome.output
  (← IO.getStdout).flush
  match outcome with
  | .serving _ address run => serve address run
  | .failed _ failure => IO.eprintln ("Error: " ++ failure.message)
  | _ => pure ()
  pure ((outcome.status?.getD 0).toUInt32)

end ApiStub.Main

/-- The program. -/
def main (arguments : List String) : IO UInt32 := do
  match ApiStub.CommandLine.Command.read arguments with
  | .ok command => ApiStub.Main.perform command
  | .error (.shown text) =>
    IO.print text
    pure 0
  | .error .misuse =>
    IO.eprint ApiStub.CommandLine.programHelp
    pure 2
