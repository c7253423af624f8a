import ApiStub.Api.Reference
import ApiStub.Api.Schema

/-!
# Expansion of schemas

`expand` turns a schema of a document into a `Schema` tree with every reference replaced by its
target. Two limits keep the tree finite: each branch has an allowance of references it may follow,
and one response schema may visit at most `nodeBudget` nodes. Where a limit is met, or a value is
no schema at all, the placeholder stands.

`allOf` merges the branches that are objects; `oneOf` and `anyOf` take their first branch.
-/

namespace ApiStub.Api

/-- Schema nodes expanded for one response. A schema that refers to itself from several properties
grows exponentially in the allowance; this bounds it. -/
def nodeBudget : Nat := 10000

/-- The number of nodes visited so far is threaded through an expansion. -/
abbrev Expansion := StateM Nat

/-- The `type` keyword; of a list of types the first that is not `null`. -/
def declaredType? (value : Json) : Option String :=
  match value.get? "type" with
  | some (.string name) => some name
  | some (.array names) => (names.filterMap Json.string?).find? (· != "null")
  | _ => none

/-- The text of a member. -/
def textOf? (members : Members) (name : String) : Option String :=
  (Json.find? members name).bind Json.string?

/-- The bounds of a length under two keywords. -/
def sizeBounds (members : Members) (least greatest : String) : SizeBounds where
  least := (Json.find? members least).bind Json.nat?
  greatest := (Json.find? members greatest).bind Json.nat?

/-- The declared bounds of a number. -/
def valueBounds (members : Members) : ValueBounds where
  minimum := (Json.find? members "minimum").bind Json.number?
  maximum := (Json.find? members "maximum").bind Json.number?

/-- The declared facets of a string. -/
def stringFacets (members : Members) : StringFacets where
  format := (textOf? members "format").map TextFormat.ofKeyword
  pattern := textOf? members "pattern"
  size := sizeBounds members "minLength" "maxLength"

/-- The example of a schema: `example`, else the first of `examples`. -/
def example? (members : Members) : Option Json :=
  (Json.find? members "example").or
    (((Json.find? members "examples").bind Json.items?).bind List.head?)

/-- The allowed values of a schema. -/
def allowedValues (members : Members) : List Json :=
  ((Json.find? members "enum").bind Json.items?).getD []

/-- The branches under a combining keyword, when it holds a list. -/
def branches? (members : Members) (keyword : String) : Option (List Json) :=
  (Json.find? members keyword).bind Json.items?

/-- The branch chosen among alternatives: the first of `oneOf`, else the first of `anyOf`. -/
def alternative? (members : Members) : Option Json :=
  ((branches? members "oneOf").bind List.head?).or ((branches? members "anyOf").bind List.head?)

section Node

variable (visit : Json → Nat → Expansion Schema)

/-- The items of an array schema. -/
def expandItems (members : Members) (allowance : Nat) : Expansion (Option Schema) :=
  match Json.find? members "items" with
  | none => pure none
  | some items => some <$> visit items allowance

/-- The declared properties of an object schema, in order. -/
def expandProperties (allowance : Nat) : Members → Expansion (List (String × Schema))
  | [] => pure []
  | (name, value) :: rest => do
    let schema ← visit value allowance
    let others ← expandProperties allowance rest
    pure ((name, schema) :: others)

/-- The properties and required names that an object schema declares itself. -/
def expandShape (members : Members) (allowance : Nat) : Expansion ObjectShape := do
  let declared := ((Json.find? members "properties").bind Json.members?).getD []
  let properties ← expandProperties visit allowance declared
  let required := ((Json.find? members "required").bind Json.items?).getD []
  pure { properties, required := required.filterMap Json.string? }

/-- What the branches of an `allOf` have given so far. -/
structure Merge where
  /-- The object put together. -/
  shape : ObjectShape
  /-- Whether a branch was an object. -/
  sawObject : Bool := false
  /-- The first branch that was not. -/
  firstOther : Option Schema := none

/-- Takes in one more branch. -/
def Merge.add (state : Merge) : Schema → Merge
  | .object _ properties required =>
    { state with shape := state.shape.merge properties required, sawObject := true }
  | other => { state with firstOther := state.firstOther.or (some other) }

/-- The merged object; only when no branch is an object, the first branch that is something else. -/
def Merge.result (state : Merge) : Schema :=
  match state.firstOther, state.sawObject with
  | some other, false => other
  | _, _ => state.shape.toSchema

/-- Expands and takes in the branches of an `allOf`, in order. -/
def expandBranches (allowance : Nat) : List Json → Merge → Expansion Merge
  | [], state => pure state
  | branch :: rest, state => do
    let schema ← visit branch allowance
    expandBranches allowance rest (state.add schema)

/-- A schema without a combining keyword, by its type. Without a type, `items` makes it an array
and anything else an object. -/
def expandTyped (members : Members) (allowance : Nat) : Expansion Schema := do
  let marks : Marks := { example? := example? members, allowed := allowedValues members }
  let array : Expansion Schema := do
    let items ← expandItems visit members allowance
    pure (.array marks items (sizeBounds members "minItems" "maxItems"))
  let object : Expansion Schema := do
    let shape ← expandShape visit members allowance
    pure (shape.toSchema marks)
  match declaredType? (.object members) with
  | some "string" => pure (.string marks (stringFacets members))
  | some "integer" => pure (.integer marks (valueBounds members))
  | some "number" => pure (.number marks (valueBounds members))
  | some "boolean" => pure (.boolean marks)
  | some "array" => array
  | some "object" => object
  | some other => pure (.unknown marks other)
  | none => if (Json.find? members "items").isSome then array else object

/-- The schema of an object of the document. An example beside a combining keyword goes before
whatever the branches say. -/
def expandMembers (members : Members) (allowance : Nat) : Expansion Schema :=
  match branches? members "allOf" with
  | some branches => do
    let shape ← expandShape visit members allowance
    let merge ← expandBranches visit allowance branches { shape }
    pure (merge.result.replaceExample (example? members))
  | none =>
    match alternative? members with
    | some branch => do
      let schema ← visit branch allowance
      pure (schema.replaceExample (example? members))
    | none => expandTyped visit members allowance

end Node

/-- The schema that a value of the document describes, where the branch may follow `allowance`
more references. Every visit counts one node, and a visit past the budget gives the placeholder;
`fuel` is an upper bound of what is left of the budget, so running out of it is the same event. -/
def expandFrom (root : Json) : Nat → Json → Nat → Expansion Schema
  | 0, _, _ => do
    modify (· + 1)
    pure .placeholder
  | fuel + 1, value, allowance => do
    let used ← modifyGet fun used => (used, used + 1)
    if nodeBudget ≤ used then pure .placeholder
    else
      match follow? root allowance value with
      | some (.object members, allowance) =>
        expandMembers (expandFrom root fuel) members allowance
      | _ => pure .placeholder

/-- Expands a response schema with a budget of its own. -/
def expand (root : Json) (value : Json) (allowance : Nat) : Schema :=
  (expandFrom root nodeBudget value allowance 0).1

end ApiStub.Api
