import ApiStub.Pattern.Sample
import ApiStub.Mock.Format
import ApiStub.Mock.Number
import ApiStub.Mock.Policy

/-!
# Values of a schema

A maker draws a JSON value for a schema. An example answers for the whole node below it;
past the deepest level, nodes become empty; a list of allowed values goes before the kind of a
scalar. Every schema has a value: what cannot be met is answered by the nearest thing.
-/

namespace ApiStub.Mock

open Api (Marks ValueBounds Schema SizeBounds StringFacets)

/-- What values are drawn with. -/
structure Maker where
  /-- Choices for what a schema leaves open. -/
  policy : Policy := {}
  /-- The words of filler text. -/
  vocabulary : Vocabulary := .latin

namespace Maker

variable {σ : Type} [WordSource σ]

/-- A string of a format, if it has a form of its own. -/
def formatted? (maker : Maker) (facets : StringFacets) : Draw σ (Option String) :=
  match facets.format with
  | none => pure none
  | some format => formatted maker.vocabulary format

/-- A string that the pattern matches, if there is a pattern that texts can be drawn from. -/
def matching? (facets : StringFacets) : Draw σ (Option String) :=
  match facets.pattern with
  | none => pure none
  | some pattern => Pattern.matching pattern

/-- Filler text of a length within the bounds. -/
def filler (maker : Maker) (size : SizeBounds) : Draw σ String :=
  let (least, greatest) :=
    Policy.effectiveBounds size.least size.greatest maker.policy.minLength
      maker.policy.maxLength
  text maker.vocabulary least greatest

/-- A string: of the format, else of the pattern, else filler text. -/
def string (maker : Maker) (facets : StringFacets) : Draw σ String := do
  match ← maker.formatted? facets with
  | some value => pure value
  | none =>
    match ← matching? facets with
    | some value => pure value
    | none => maker.filler facets.size

/-- One of the allowed values; without any, a value of the kind. -/
def allowedOr (marks : Marks) (other : Draw σ Json) : Draw σ Json := do
  match ← Draw.choose? marks.allowed with
  | some value => pure value
  | none => other

/-- What a node becomes past the deepest level. -/
def stump : Schema → Json
  | .object _ _ _ => .object []
  | .array _ _ _ => .array []
  | _ => .null

/-- The example of a node; else what is left of it past the deepest level, or what is drawn. -/
def guarded (policy : Policy) (depth : Nat) (node : Schema) (drawn : Draw σ Json) : Draw σ Json :=
  match node.marks.example? with
  | some value => pure value
  | none => if policy.maxDepth < depth then pure (stump node) else drawn

/-- An array of values drawn one by one. -/
def itemsWithin (policy : Policy) (size : SizeBounds) (item : Draw σ Json) : Draw σ Json := do
  let (least, greatest) :=
    Policy.effectiveBounds size.least size.greatest policy.minItems policy.maxItems
  let length ← Draw.natBetween .bits64 least greatest
  Json.array <$> Draw.times length item

/-- Whether a property is present: always when it is required, else by chance. -/
def included (policy : Policy) (required : List String) (name : String) : Draw σ Bool :=
  if required.contains name then pure true else Draw.chance policy.inclusion

mutual

/-- A value for a node at a level below the root. -/
def valueAt (maker : Maker) (depth : Nat) : Schema → Draw σ Json
  | .string marks facets =>
    guarded maker.policy depth (.string marks facets)
      (allowedOr marks (Json.string <$> maker.string facets))
  | .integer marks bounds =>
    guarded maker.policy depth (.integer marks bounds)
      (allowedOr marks (Json.int <$> integer bounds))
  | .number marks bounds =>
    guarded maker.policy depth (.number marks bounds)
      (allowedOr marks (Json.float <$> number bounds maker.policy.precision))
  | .boolean marks =>
    guarded maker.policy depth (.boolean marks)
      (allowedOr marks (Json.bool <$> Draw.chance 0.5))
  | .array marks none size =>
    guarded maker.policy depth (.array marks none size) (pure (.array []))
  | .array marks (some items) size =>
    guarded maker.policy depth (.array marks (some items) size)
      (itemsWithin maker.policy size (valueAt maker (depth + 1) items))
  | .object marks properties required =>
    guarded maker.policy depth (.object marks properties required)
      (Json.object <$> membersAt maker (depth + 1) required properties [])
  | .unknown marks keyword =>
    guarded maker.policy depth (.unknown marks keyword) (pure .null)

/-- Adds the members of an object to the ones that are there. -/
def membersAt (maker : Maker) (depth : Nat) (required : List String) :
    List (String × Schema) → Members → Draw σ Members
  | [], members => pure members
  | (name, schema) :: rest, members => do
    if ← included maker.policy required name then
      let value ← valueAt maker depth schema
      membersAt maker depth required rest (Json.put name value members)
    else membersAt maker depth required rest members

end

/-- A value for a schema. -/
def value (maker : Maker) (schema : Schema) : Draw σ Json :=
  maker.valueAt 0 schema

end Maker

end ApiStub.Mock
