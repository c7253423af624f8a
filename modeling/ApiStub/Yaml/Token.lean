/-!
# YAML tokens

The tokens that the text of a YAML stream is made of. Block structure, which the text shows by
indentation, is explicit here: collections have a start and an end token, and every key of a
mapping has a token in front of it, whether or not the text spells one.
-/

namespace ApiStub.Yaml

/-- A token of a YAML stream. -/
inductive Token where
  | versionDirective (major minor : Nat)
  | tagDirective (handle leading : String)
  | documentStart
  | documentEnd
  | blockSequenceStart
  | blockMappingStart
  | blockEnd
  | flowSequenceStart
  | flowSequenceEnd
  | flowMappingStart
  | flowMappingEnd
  | blockEntry
  | flowEntry
  | key
  | value
  | alias (name : String)
  | anchor (name : String)
  | tag (handle suffix : String)
  /-- A scalar with its text; only a `plain` one is read by its form. -/
  | scalar (text : String) (plain : Bool)
  deriving DecidableEq, Repr

end ApiStub.Yaml
