import ApiStub.Config.Settings
import ApiStub.Toml.Reader

/-!
# Settings from TOML

Every section and every key may be missing, and keys that mean nothing are skipped; a value of the
wrong type is an error. A section is a table, or an array of its values in the order in which the
fields are listed here.
-/

namespace ApiStub.Config

/-- The values given for the keys of a section. -/
abbrev Given := List (String × Toml)

/-- The values given for the keys of a section, when it is one. A date has none of the keys. -/
def given? (keys : List String) : Toml → Option Given
  | .table entries => some entries
  | .array items => some (keys.zip items)
  | .datetime => some []
  | _ => none

/-- The value of a key, read by `read`; the default when the key is missing. -/
def field {α : Type} (given : Given) (key : String) (read : Toml → Option α) (default : α) :
    Option α :=
  match Json.find? given key with
  | none => some default
  | some value => read value

/-- A text. -/
def text? : Toml → Option String
  | .string value => some value
  | _ => none

/-- A truth value. -/
def flag? : Toml → Option Bool
  | .boolean value => some value
  | _ => none

/-- A natural number below a power of two. -/
def natural? (bits : Nat) : Toml → Option Nat
  | .integer (.ofNat value) => if value < 2 ^ bits then some value else none
  | _ => none

/-- A number; an integer counts as the float it is. -/
def number? : Toml → Option Float
  | .float value => some value
  | .integer value => some (Float.ofInt value)
  | _ => none

/-- A list of texts. -/
def texts? : Toml → Option (List String)
  | .array items => items.mapM text?
  | _ => none

/-- The server section. -/
def server? (value : Toml) : Option Server := do
  let given ← given? ["host", "port", "workers", "request_timeout_secs"] value
  let default : Server := {}
  some
    { host := ← field given "host" text? default.host,
      port := ← field given "port" (natural? 16) default.port,
      workers := ← field given "workers" (natural? 64) default.workers,
      requestTimeout := ← field given "request_timeout_secs" (natural? 64) default.requestTimeout }

/-- The keys of the mocking section. -/
def mockingKeys : List String :=
  ["optional_property_probability", "min_items", "max_items", "min_length", "max_length",
    "max_depth", "number_precision", "live", "seed"]

/-- The part of the mocking section that is a policy. -/
def policy? (given : Given) : Option Mock.Policy := do
  let default : Mock.Policy := {}
  some
    { optionalChance :=
        ← field given "optional_property_probability" number? default.optionalChance,
      minItems := ← field given "min_items" (natural? 64) default.minItems,
      maxItems := ← field given "max_items" (natural? 64) default.maxItems,
      minLength := ← field given "min_length" (natural? 64) default.minLength,
      maxLength := ← field given "max_length" (natural? 64) default.maxLength,
      maxDepth := ← field given "max_depth" (natural? 64) default.maxDepth,
      precision := ← field given "number_precision" (natural? 32) default.precision }

/-- The mocking section. -/
def mocking? (value : Toml) : Option Mocking := do
  let given ← given? mockingKeys value
  let default : Mocking := {}
  some
    { policy := ← policy? given,
      live := ← field given "live" flag? default.live,
      seed := ← field given "seed" (fun value => (natural? 64 value).map some) default.seed }

/-- The openapi section. -/
def openapi? (value : Toml) : Option Api.Requirements := do
  let given ← given? ["min_version", "max_ref_depth"] value
  let default : Api.Requirements := {}
  some
    { minimumVersion := ← field given "min_version" text? default.minimumVersion,
      referenceAllowance :=
        ← field given "max_ref_depth" (natural? 64) default.referenceAllowance }

/-- The logging section. -/
def logging? (value : Toml) : Option Logging := do
  let given ←
    given? ["level", "json", "access_log", "exclude_paths", "log_body", "sensitive_fields"] value
  let default : Logging := {}
  some
    { level := ← field given "level" text? default.level,
      json := ← field given "json" flag? default.json,
      accessLog := ← field given "access_log" flag? default.accessLog,
      excludePaths := ← field given "exclude_paths" texts? default.excludePaths,
      logBody := ← field given "log_body" flag? default.logBody,
      sensitiveFields := ← field given "sensitive_fields" texts? default.sensitiveFields }

/-- The metrics section. -/
def metrics? (value : Toml) : Option Metrics := do
  let given ← given? ["enabled", "address"] value
  let default : Metrics := {}
  some
    { enabled := ← field given "enabled" flag? default.enabled,
      address := ← field given "address" text? default.address }

/-- The reload section. -/
def reload? (value : Toml) : Option Reload := do
  let given ← given? ["enabled"] value
  let default : Reload := {}
  some { enabled := ← field given "enabled" flag? default.enabled }

/-- The settings of a document. -/
def Settings.ofToml? (document : Given) : Option Settings := do
  some
    { server := ← field document "server" server? {},
      mocking := ← field document "mocking" mocking? {},
      openapi := ← field document "openapi" openapi? {},
      logging := ← field document "logging" logging? {},
      metrics := ← field document "metrics" metrics? {},
      reload := ← field document "reload" reload? {} }

end ApiStub.Config
