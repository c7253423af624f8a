import ApiStub.CommandLine.Scan
import ApiStub.CommandLine.Verb
import ApiStub.Config.Source

/-!
# Commands

What the arguments of the program ask for. The flags of `serve` replace single settings of the
file; the result is checked again as a whole.
-/

namespace ApiStub.CommandLine

open Config (SettingsError Settings)

/-- What serving a document may be given. -/
structure ServeOptions where
  /-- The path of the document. -/
  spec : String
  /-- The path of the file of settings. -/
  config : Option String := none
  /-- The host to bind. -/
  host : Option String := none
  /-- The port to bind. -/
  port : Option Nat := none
  /-- How many threads serve requests. -/
  workers : Option Nat := none
  /-- Whether a body is drawn for every request. -/
  live : Bool := false
  /-- The seed of the bodies that are made beforehand. -/
  seed : Option Nat := none
  /-- Whether the document is watched for changes. -/
  watch : Bool := false
  deriving DecidableEq, Repr

/-- Settings with those replaced that flags give. -/
def ServeOptions.apply (options : ServeOptions) (settings : Settings) : Settings :=
  { settings with
    server :=
      { settings.server with
        host := options.host.getD settings.server.host
        port := options.port.getD settings.server.port
        workers := options.workers.getD settings.server.workers }
    mocking :=
      { settings.mocking with
        live := options.live || settings.mocking.live
        seed := options.seed <|> settings.mocking.seed }
    reload := { settings.reload with enabled := options.watch || settings.reload.enabled } }

/-- The settings to serve with; `file` is the file of settings, if one is named. -/
def ServeOptions.settings (options : ServeOptions) (file : Option (Option (List UInt8))) :
    Except SettingsError Settings := do
  let settings ← Settings.ofFile file
  (options.apply settings).check

/-- What the program is asked for. -/
inductive Command where
  /-- To serve a document. -/
  | serve (options : ServeOptions)
  /-- To show what a document would be served as. -/
  | validate (spec : String) (config : Option String)
  deriving DecidableEq, Repr

/-- Why there is nothing to do. -/
inductive Declined where
  /-- The arguments cannot be accepted. -/
  | misuse
  /-- The arguments ask for a text. -/
  | shown (text : String)
  deriving DecidableEq, Repr

/-- The number a flag gives. -/
def Given.number? (given : Given) (name : String) : Option Nat :=
  (given.value? name).bind fun value => nonnegative? value.toList

/-- The document that is named and all else that is given to a verb. -/
def readVerb (verb : Verb) (arguments : List String) : Except Declined (String × Given) :=
  match scan verb.allFlags ({}, none) arguments with
  | .error .help => .error (.shown verb.help)
  | .error _ => .error .misuse
  | .ok given =>
    match given.operands with
    | spec :: _ => .ok (spec, given)
    | [] => .error .misuse

/-- The help on a verb that is named; further words name nothing. -/
def helpOn : List String → Declined
  | [] => .shown programHelp
  | [name] =>
    if name == helpVerb.name then .shown helpOfHelp
    else (verbs.find? (·.name == name)).elim .misuse fun verb => .shown verb.help
  | _ => .misuse

/-- The answer to a flag in the place of a verb. -/
def answerFlag (argument : String) : Declined :=
  match readFlag [helpFlag, versionFlag] {} argument with
  | .error .help => .shown programHelp
  | .error .version => .shown (programName ++ " " ++ Route.version ++ "\n")
  | _ => .misuse

/-- What the arguments ask for. -/
def Command.read : List String → Except Declined Command
  | [] => .error .misuse
  | name :: arguments =>
    if name == serveVerb.name then do
      let (spec, given) ← readVerb serveVerb arguments
      pure (.serve
        { spec
          config := given.value? "config"
          host := given.value? "host"
          port := given.number? "port"
          workers := given.number? "workers"
          live := given.has "live"
          seed := given.number? "seed"
          watch := given.has "watch" })
    else if name == validateVerb.name then do
      let (spec, given) ← readVerb validateVerb arguments
      pure (.validate spec (given.value? "config"))
    else if name == helpVerb.name then .error (helpOn arguments)
    else .error (answerFlag name)

end ApiStub.CommandLine
