import ApiStub.CommandLine.Flag

/-!
# Verbs

A verb is the first argument and says what to do. Its help is composed of what it is for, of how
to write it, and of a row for everything that may follow it; all rows have their texts in the same
column.
-/

namespace ApiStub.CommandLine

/-- The name of the program. -/
def programName : String := "openapi-mock"

/-- What the program is for. -/
def programAbout : String := "Mock HTTP server generated from an OpenAPI 3 spec"

/-- Something that the program does. -/
structure Verb where
  /-- The argument that asks for it. -/
  name : String
  /-- What it is. -/
  about : String
  /-- The flags that may follow, without the one that asks for help. -/
  flags : List Flag
  deriving DecidableEq, Repr

/-- The flag for the file of settings. -/
def configFlag : Flag :=
  { name := "config", letter := some 'c', values := some .path, help := "TOML configuration file" }

/-- Serving a document. -/
def serveVerb : Verb where
  name := "serve"
  about := "Serve mock responses for every operation in the spec"
  flags :=
    [configFlag,
      { name := "host", values := some .text },
      { name := "port", letter := some 'p', values := some (.signed (2 ^ 16)) },
      { name := "workers", letter := some 'w', values := some (.number (2 ^ 64)),
        help := "Tokio worker threads" },
      { name := "live", help := "Resynthesize bodies on every request" },
      { name := "seed", values := some (.number (2 ^ 64)),
        help := "Seed for reproducible bodies" },
      { name := "watch", help := "Rebuild routes when the spec file changes" }]

/-- Showing what a document would be served as. -/
def validateVerb : Verb where
  name := "validate"
  about := "Load the spec, print a summary and the endpoints it would serve"
  flags := [configFlag]

/-- The verbs that work on a document. -/
def verbs : List Verb := [serveVerb, validateVerb]

/-- The verb that asks for help. -/
def helpVerb : Verb where
  name := "help"
  about := "Print this message or the help of the given subcommand(s)"
  flags := []

/-- All flags that may follow a verb. -/
def Verb.allFlags (verb : Verb) : List Flag := verb.flags ++ [helpFlag]

/-- Rows of two columns under a heading, with two spaces before and between the columns. -/
def table (heading : String) (rows : List (String × String)) : String :=
  let width := (rows.map fun row => row.1.length).foldl max 0
  heading ++ ":\n" ++ String.join (rows.map fun row =>
    "  " ++ row.1 ++ String.ofList (List.replicate (width - row.1.length + 2) ' ') ++ row.2 ++ "\n")

/-- The row of a flag. -/
def Flag.row (flag : Flag) : String × String := (flag.synopsis, flag.help)

/-- Help in sections with empty lines between them. -/
def helpText (about usage : String) (sections : List String) : String :=
  "\n".intercalate
    ((about ++ "\n") :: ("Usage: " ++ programName ++ " " ++ usage ++ "\n") :: sections)

/-- The help of a verb that works on a document. -/
def Verb.help (verb : Verb) : String :=
  helpText verb.about (verb.name ++ " [OPTIONS] " ++ placeholder "spec")
    [table "Arguments" [(placeholder "spec", "OpenAPI document (.json, .yaml or .yml)")],
      table "Options" (verb.allFlags.map Flag.row)]

/-- The help of the verb that asks for help. -/
def helpOfHelp : String :=
  helpText helpVerb.about (helpVerb.name ++ " [COMMAND]...")
    [table "Arguments" [("[COMMAND]...", "Print help for the subcommand(s)")]]

/-- The help of the program. -/
def programHelp : String :=
  helpText programAbout "<COMMAND>"
    [table "Commands" ((verbs ++ [helpVerb]).map fun verb => (verb.name, verb.about)),
      table "Options" ([helpFlag, versionFlag].map Flag.row)]

end ApiStub.CommandLine
