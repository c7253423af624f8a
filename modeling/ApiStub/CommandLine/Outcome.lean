import ApiStub.CommandLine.Command
import ApiStub.Running.Start
import ApiStub.Net.Host

/-!
# What becomes of a command

A command either ends with a status and what it prints, or serves a run. Files are seen through
`look`, which says what stands under a path.
-/

namespace ApiStub.CommandLine

open Config (SettingsError Settings)
open Running (Compilation Run StartError)

/-- Why a command fails. -/
inductive Failure where
  /-- There are no settings. -/
  | config (error : SettingsError)
  /-- The server does not start. -/
  | startup (error : StartError)
  /-- There is no such host. -/
  | host (name : String)

/-- The failure in words. -/
def Failure.message : Failure → String
  | config error => error.message?.getD "The settings cannot be read"
  | startup error => error.message?.getD "The document cannot be read"
  | host name => "There is no host " ++ name

/-- What becomes of a command. -/
inductive Outcome where
  /-- It has printed something and is done. -/
  | done (output : String)
  /-- It has printed something and has failed. -/
  | failed (output : String) (failure : Failure)
  /-- It was not understood. -/
  | misused
  /-- It has printed something and serves a run at an address. -/
  | serving (output : String) (address : Net.SocketAddress) (run : Run)

namespace Outcome

/-- What is printed. -/
def output : Outcome → String
  | done output => output
  | failed output _ => output
  | misused => ""
  | serving output _ _ => output

/-- The status of the program when it has ended. -/
def status? : Outcome → Option Nat
  | done _ => some 0
  | failed _ _ => some 1
  | misused => some 2
  | serving _ _ _ => none

end Outcome

/-- A row of a report: a label of twelve columns and a value. -/
def reportRow (label value : String) : String :=
  label ++ String.ofList (List.replicate (12 - label.length) ' ') ++ " " ++ value ++ "\n"

/-- What there is to say about a compiled description. -/
def report (compiled : Compilation) : String :=
  let summary := compiled.description.summary
  reportRow "OpenAPI" summary.openapi ++ reportRow "Title" summary.title ++
    reportRow "Paths" (toString summary.paths) ++
    reportRow "Operations" (toString summary.operations) ++
    reportRow "Schemas" (toString summary.schemas) ++ "\n" ++ compiled.table.banner

/-- The file of settings that is named. -/
def settingsFile (look : String → Option Files.Item) (config : Option String) :
    Option (Option (List UInt8)) :=
  config.map fun path => (look path).bind Files.Item.content?

/-- Reports on a document. -/
def inspect (look : String → Option Files.Item) (fresh : ChaChaWords) (spec : String)
    (config : Option String) : Except Failure String := do
  let settings ← (Settings.ofFile (settingsFile look config)).mapError .config
  let compiled ← (Running.compile settings fresh spec (look spec)).mapError fun error =>
    .startup (.compile error)
  pure (report compiled)

/-- Compiles a document and finds the address to serve it at. -/
def launch (look : String → Option Files.Item) (fresh : ChaChaWords) (options : ServeOptions) :
    Except Failure (Net.SocketAddress × Run) := do
  let settings ← (options.settings (settingsFile look options.config)).mapError .config
  let run ← (Run.start? settings fresh options.spec (look options.spec)).mapError fun error =>
    .startup (.compile error)
  let server := settings.server
  let address ← (Net.SocketAddress.ofHost? server.host server.port).elim
    (.error (.host server.host)) .ok
  pure (address, run)

/-- What becomes of a command. The table is shown before anything that can still fail. -/
def Command.perform (look : String → Option Files.Item) (fresh : ChaChaWords) : Command → Outcome
  | .validate spec config =>
    match inspect look fresh spec config with
    | .ok output => .done output
    | .error failure => .failed "" failure
  | .serve options =>
    match launch look fresh options with
    | .error failure => .failed "" failure
    | .ok (address, run) =>
      match run.prepare with
      | .ok prepared => .serving run.tables.served.banner address prepared
      | .error error => .failed run.tables.served.banner (.startup error)

/-- What becomes of the program with some arguments. -/
def perform (look : String → Option Files.Item) (fresh : ChaChaWords)
    (arguments : List String) : Outcome :=
  match Command.read arguments with
  | .ok command => command.perform look fresh
  | .error .misuse => .misused
  | .error (.shown text) => .done text

/-- The paths that a command looks at. -/
def Command.paths : Command → List String
  | .serve options => options.spec :: options.config.toList
  | .validate spec config => spec :: config.toList

end ApiStub.CommandLine
