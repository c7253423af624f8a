import ApiStub.Config.Settings
import ApiStub.Decimal.Layout
import ApiStub.Net.Address
import ApiStub.Text.Blank

/-!
# Problems of settings

Settings of the right types may still make no sense. All problems are found, in a fixed order.
-/

namespace ApiStub.Config

/-- What makes no sense. -/
inductive Problem where
  /-- A probability outside of `0 .. 1`. -/
  | probability (value : Float)
  /-- Bounds of a count of items, the lower one above the upper one. -/
  | itemBounds (least greatest : Nat)
  /-- Bounds of a length, the lower one above the upper one. -/
  | lengthBounds (least greatest : Nat)
  /-- No level that is expanded. -/
  | noDepth
  /-- Nobody to serve requests. -/
  | noWorkers
  /-- More decimal places than are allowed. -/
  | precision (places : Nat)
  /-- No version to compare with. -/
  | noVersion
  /-- A text that is no address. -/
  | address (value : String)

/-- A float in messages: positional, and whole numbers without a fraction. -/
def plainNumber : Layout where
  positional _ := true
  wholeFraction := false
  notANumber := "NaN"
  infinite := "inf"

/-- Bounds that are the wrong way round, in words. -/
def invertedMessage (noun : String) (least greatest : Nat) : String :=
  "mocking.min_" ++ noun ++ " (" ++ toString least ++ ") must not exceed mocking.max_" ++ noun ++
    " (" ++ toString greatest ++ ")"

/-- A problem in words. -/
def Problem.message : Problem → String
  | probability value =>
    "mocking.optional_property_probability must be within [0, 1], got " ++ plainNumber.write value
  | itemBounds least greatest => invertedMessage "items" least greatest
  | lengthBounds least greatest => invertedMessage "length" least greatest
  | noDepth => "mocking.max_depth must be at least 1"
  | noWorkers => "server.workers must be at least 1"
  | precision places =>
    "mocking.number_precision must be at most 10, got " ++ toString places
  | noVersion => "openapi.min_version must not be empty"
  | address value => "metrics.address is not a valid socket address: " ++ value

/-- The most decimal places that are allowed. -/
def maxPrecision : Nat := 10

/-- Whether a float is a probability. -/
def isProbability (p : Float) : Bool := 0.0 ≤ p && p ≤ 1.0

/-- A problem when a condition holds. -/
def problemIf (condition : Bool) (problem : Problem) : List Problem :=
  if condition then [problem] else []

/-- The problems of settings. -/
def Settings.problems (settings : Settings) : List Problem :=
  let policy := settings.mocking.policy
  problemIf (!isProbability policy.optionalChance) (.probability policy.optionalChance) ++
    problemIf (policy.maxItems < policy.minItems) (.itemBounds policy.minItems policy.maxItems) ++
    problemIf (policy.maxLength < policy.minLength)
      (.lengthBounds policy.minLength policy.maxLength) ++
    problemIf (policy.maxDepth == 0) .noDepth ++
    problemIf (settings.server.workers == 0) .noWorkers ++
    problemIf (maxPrecision < policy.precision) (.precision policy.precision) ++
    problemIf (Text.trimBlanks settings.openapi.minimumVersion.toList).isEmpty .noVersion ++
    problemIf (Net.SocketAddress.read? settings.metrics.address).isNone
      (.address settings.metrics.address)

end ApiStub.Config
