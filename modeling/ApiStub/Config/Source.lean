import ApiStub.Config.Decode
import ApiStub.Config.Validate
import ApiStub.Text.Utf8

/-!
# Loading settings

Settings are read from TOML text and checked. A file is the bytes it holds, or nothing when it
cannot be read.
-/

namespace ApiStub.Config

/-- Why there are no settings. -/
inductive SettingsError where
  /-- The file cannot be read as text. -/
  | unreadable
  /-- The text is no TOML, or a value has the wrong type. -/
  | malformed
  /-- The settings make no sense. -/
  | invalid (problems : List Problem)

/-- The error in words, where it has words of its own. -/
def SettingsError.message? : SettingsError → Option String
  | unreadable => none
  | malformed => none
  | invalid problems =>
    some ("Validation failed: " ++ ", ".intercalate (problems.map Problem.message))

/-- The settings, when they make sense. -/
def Settings.check (settings : Settings) : Except SettingsError Settings :=
  if settings.problems.isEmpty then .ok settings else .error (.invalid settings.problems)

/-- The settings of a text. -/
def Settings.parse (source : String) : Except SettingsError Settings :=
  match (Toml.parse? source).bind Settings.ofToml? with
  | none => .error .malformed
  | some settings => settings.check

/-- The settings of a file. -/
def Settings.load (file : Option (List UInt8)) : Except SettingsError Settings :=
  match file.bind Text.decode? with
  | none => .error .unreadable
  | some source => Settings.parse source

/-- The settings of a file, or the defaults when there is none to load. -/
def Settings.ofFile (file : Option (Option (List UInt8))) : Except SettingsError Settings :=
  match file with
  | none => .ok {}
  | some file => Settings.load file

end ApiStub.Config
