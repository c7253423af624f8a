import ApiStub.Api.Document
import ApiStub.Api.Version
import ApiStub.Files.Folder
import ApiStub.Json.Reader
import ApiStub.Yaml.Document

/-!
# Sources of descriptions

From what stands under a path to a `Description`: the format follows from the path, the text is
parsed, the version it declares is checked, and what it describes is kept. `LoadError` says at
which of these steps a source is refused.
-/

namespace ApiStub.Api

/-- The formats a document may be written in. -/
inductive SourceFormat where
  | json
  | yaml
  deriving DecidableEq, Repr

/-- Why a source gives no description. -/
inductive LoadError where
  /-- There is nothing under the path. -/
  | notFound (path : String)
  /-- The path has no extension of a known format. -/
  | unsupportedFormat (path : String)
  /-- What is under the path cannot be read as text. -/
  | unreadable
  /-- The text is no JSON document. -/
  | invalidJson
  /-- The text is no YAML document. -/
  | invalidYaml
  /-- The document declares no version. -/
  | missingVersion
  /-- The document is older than required. -/
  | unsupportedVersion (found minimum : String)
  deriving DecidableEq, Repr

/-- The text shown for an error; errors of reading and parsing have none of their own. -/
def LoadError.message? : LoadError → Option String
  | notFound path => some s!"OpenAPI specification file not found: {path}"
  | unsupportedFormat path =>
    some s!"Unsupported specification format: {path}. Use YAML or JSON."
  | unreadable => none
  | invalidJson => none
  | invalidYaml => none
  | missingVersion => some "Document has no \x60openapi\x60 version field"
  | unsupportedVersion found minimum =>
    some s!"OpenAPI version {found} is not supported. Minimum required version is {minimum}"

/-- The format that a path announces. -/
def SourceFormat.ofPath (path : String) : Except LoadError SourceFormat :=
  match (Files.fileName? path).bind Files.extension? with
  | some "json" => .ok .json
  | some "yaml" => .ok .yaml
  | some "yml" => .ok .yaml
  | _ => .error (.unsupportedFormat path)

/-- The document of a text. -/
def readDocument (format : SourceFormat) (text : String) : Except LoadError Json :=
  match format with
  | .json => (Json.parse? text).elim (.error .invalidJson) .ok
  | .yaml => (Yaml.parse? text).elim (.error .invalidYaml) .ok

/-- Refuses a document that declares no version or one before the minimum. -/
def requireVersion (document : Json) (minimum : String) : Except LoadError Unit :=
  match memberText? document "openapi" with
  | none => .error .missingVersion
  | some found =>
    if versionOrder found minimum == .lt then .error (.unsupportedVersion found minimum)
    else .ok ()

/-- What a reader demands of a document and allows it. -/
structure Requirements where
  /-- The oldest version accepted. -/
  minimumVersion : String := "3.0"
  /-- How many references may be followed on a branch. -/
  referenceAllowance : Nat := 8
  deriving DecidableEq, Repr, Inhabited

/-- The description that what stands under a path gives. -/
def load (requirements : Requirements) (path : String) (item : Option Files.Item) :
    Except LoadError Description := do
  let item ← item.elim (.error (.notFound path)) .ok
  let format ← SourceFormat.ofPath path
  let text ← item.text?.elim (.error .unreadable) .ok
  let document ← readDocument format text
  requireVersion document requirements.minimumVersion
  pure (Description.ofDocument document requirements.referenceAllowance)

end ApiStub.Api
