import ApiStub.Proofs.Conformance
import ApiStub.Proofs.IntegerRange
import ApiStub.Proofs.PatternNumbers

/-!
# Numbers asked for by makers

A maker asks for a number from an empty range in one case only: a string with a pattern, when the
counts of a repetition in the pattern are not in order. A schema without such a pattern has a value
from every source.
-/

namespace ApiStub

open Draw (Careful careful_pure)

/-! ## Values -/

namespace Api

/-- The counts in the pattern of a string are in order. -/
def StringFacets.Countable (facets : StringFacets) : Prop :=
  ∀ source, facets.pattern = some source → ∀ pattern, Pattern.read? source.toList = some pattern →
    pattern.Every Pattern.HasNumber

/-- The counts in the patterns of all strings are in order. -/
def Schema.Countable (schema : Schema) : Prop :=
  ∀ marks facets, schema.HasNode (.string marks facets) → facets.Countable

namespace Schema

variable {marks : Marks}

theorem Countable.facets {facets : StringFacets} (countable : Countable (.string marks facets)) :
    facets.Countable :=
  countable marks facets (.root _)

theorem Countable.items {items : Schema} {size : SizeBounds}
    (countable : Countable (.array marks (some items) size)) : items.Countable :=
  fun _ _ below => countable _ _ (.items below)

theorem Countable.property {properties : List (String × Schema)} {required : List String}
    (countable : Countable (.object marks properties required)) {property : String × Schema}
    (declared : property ∈ properties) : property.2.Countable :=
  fun _ _ below => countable _ _ (.property declared below)

end Schema

end Api

namespace Mock

open Api (Marks Schema SizeBounds StringFacets TextFormat ValueBounds)

variable {σ : Type} [WordSource σ] {fine : Prop}

theorem careful_word (vocabulary : Vocabulary) :
    (word vocabulary : Draw (Watched σ) (List Char)).Careful fine :=
  (Draw.careful_choose? _).map _

theorem careful_gatherWords (vocabulary : Vocabulary) (target rounds length : Nat)
    (done : List Char) :
    (gatherWords vocabulary target rounds length done :
      Draw (Watched σ) (List Char)).Careful fine := by
  induction rounds generalizing length done with
  | zero => exact careful_pure done
  | succ rounds ih =>
      unfold gatherWords
      split
      · exact careful_pure done
      · exact (careful_word vocabulary).bind fun word => ih _ _

theorem careful_text (vocabulary : Vocabulary) (least greatest : Nat) :
    (text vocabulary least greatest : Draw (Watched σ) String).Careful fine := by
  apply (Draw.careful_natBetween .bits64 fun _ => Nat.le_max_right _ _).bind
  intro target
  exact ((careful_gatherWords vocabulary target target 0 []).map _).map _

theorem careful_instant : (instant : Draw (Watched σ) Int).Careful fine :=
  (Draw.answerable_intBetween (by decide)).careful

theorem careful_hostname (vocabulary : Vocabulary) :
    (hostname vocabulary : Draw (Watched σ) (List Char)).Careful fine := by
  apply ((Draw.careful_choose? vocabulary.suffixes).map _).bind
  intro suffix
  apply (careful_word vocabulary).bind
  intro label
  exact careful_pure _

theorem careful_email (vocabulary : Vocabulary) :
    (email vocabulary : Draw (Watched σ) (List Char)).Careful fine := by
  apply (careful_word vocabulary).bind
  intro user
  apply (Draw.careful_natBetween .bits32 fun _ => by decide).bind
  intro number
  apply (careful_hostname vocabulary).bind
  intro host
  exact careful_pure _

theorem careful_uri (vocabulary : Vocabulary) :
    (uri vocabulary : Draw (Watched σ) (List Char)).Careful fine := by
  apply (careful_hostname vocabulary).bind
  intro host
  apply (careful_word vocabulary).bind
  intro segment
  exact careful_pure _

theorem careful_formatted (vocabulary : Vocabulary) (format : TextFormat) :
    (formatted vocabulary format : Draw (Watched σ) (Option String)).Careful fine := by
  have word : (Draw.word .bits32 : Draw (Watched σ) Nat).Careful fine :=
    (Draw.answerable_word .bits32).careful
  cases format with
  | dateTime => exact careful_instant.map _
  | date => exact careful_instant.map _
  | email => exact (careful_email vocabulary).map _
  | uri => exact (careful_uri vocabulary).map _
  | uuid => exact ((Draw.careful_times word 16).map _).map _
  | hostname => exact (careful_hostname vocabulary).map _
  | ipv4 => exact (word.map _).map _
  | ipv6 => exact ((Draw.careful_times word 8).map _).map _
  | other name => exact careful_pure none

theorem careful_number (bounds : ValueBounds) (precision : Nat) :
    (number bounds precision : Draw (Watched σ) Float).Careful fine :=
  ((Draw.answerable_word .bits64).careful.map _).map _

namespace Maker

theorem careful_string (maker : Maker) {facets : StringFacets}
    (countable : fine → facets.Countable) :
    (maker.string facets : Draw (Watched σ) String).Careful fine := by
  have ofFormat : (maker.formatted? facets : Draw (Watched σ) (Option String)).Careful fine := by
    unfold formatted?
    split
    · exact careful_pure none
    · exact careful_formatted _ _
  have ofPattern : (matching? facets : Draw (Watched σ) (Option String)).Careful fine := by
    unfold matching?
    split
    · exact careful_pure none
    · rename_i source declared
      exact Pattern.careful_matching fun holds => countable holds source declared
  apply ofFormat.bind
  intro formatted
  cases formatted with
  | some text => exact careful_pure text
  | none =>
      apply ofPattern.bind
      intro matching
      cases matching with
      | some text => exact careful_pure text
      | none => exact careful_text _ _ _

theorem careful_allowedOr (marks : Marks) {other : Draw (Watched σ) Json}
    (careful : other.Careful fine) : (allowedOr marks other).Careful fine := by
  apply (Draw.careful_choose? marks.allowed).bind
  intro chosen
  cases chosen with
  | some value => exact careful_pure value
  | none => exact careful

omit [WordSource σ] in
theorem careful_guarded (policy : Policy) (depth : Nat) (node : Schema)
    {drawn : Draw (Watched σ) Json} (careful : drawn.Careful fine) :
    (guarded policy depth node drawn).Careful fine := by
  unfold guarded
  split
  · exact careful_pure _
  · split
    · exact careful_pure _
    · exact careful

theorem careful_itemsWithin (policy : Policy) (size : SizeBounds) {item : Draw (Watched σ) Json}
    (careful : item.Careful fine) : (itemsWithin policy size item).Careful fine := by
  apply (Draw.careful_natBetween .bits64 fun _ => Policy.effectiveBounds_le _ _ _ _).bind
  intro length
  exact (Draw.careful_times careful length).map _

theorem careful_included (policy : Policy) (required : List String) (name : String) :
    (included policy required name : Draw (Watched σ) Bool).Careful fine := by
  unfold included
  split
  · exact careful_pure true
  · exact Draw.careful_chance _

mutual

/-- Only the patterns of its strings keep a schema from having a value. -/
theorem careful_valueAt (maker : Maker) (depth : Nat) : (schema : Schema) →
    (fine → schema.Countable) → (maker.valueAt depth schema : Draw (Watched σ) Json).Careful fine
  | .string marks facets, countable => by
    rw [valueAt]
    have string := maker.careful_string (σ := σ) fun holds => (countable holds).facets
    exact careful_guarded _ _ _ (careful_allowedOr marks (string.map _))
  | .integer marks bounds, _ => by
    rw [valueAt]
    have integer : (integer bounds : Draw (Watched σ) Int).Careful fine :=
      (answerable_integer bounds).careful
    exact careful_guarded _ _ _ (careful_allowedOr marks (integer.map _))
  | .number marks bounds, _ => by
    rw [valueAt]
    exact careful_guarded _ _ _ (careful_allowedOr marks ((careful_number bounds _).map _))
  | .boolean marks, _ => by
    rw [valueAt]
    exact careful_guarded _ _ _ (careful_allowedOr marks ((Draw.careful_chance 0.5).map _))
  | .array marks none size, _ => by
    rw [valueAt]
    exact careful_guarded _ _ _ (careful_pure _)
  | .array marks (some items) size, countable => by
    rw [valueAt]
    have item := careful_valueAt maker (depth + 1) items fun holds => (countable holds).items
    exact careful_guarded _ _ _ (careful_itemsWithin _ size item)
  | .object marks properties required, countable => by
    rw [valueAt]
    have members := careful_membersAt maker (depth + 1) required properties
      (fun holds property declared => (countable holds).property declared) []
    exact careful_guarded _ _ _ (members.map _)
  | .unknown marks keyword, _ => by
    rw [valueAt]
    exact careful_guarded _ _ _ (careful_pure _)

theorem careful_membersAt (maker : Maker) (depth : Nat) (required : List String) :
    (properties : List (String × Schema)) →
    (fine → ∀ property ∈ properties, property.2.Countable) → ∀ members,
    (maker.membersAt depth required properties members : Draw (Watched σ) Members).Careful fine
  | [], _, members => by
    rw [membersAt]
    exact careful_pure members
  | (name, schema) :: rest, countable, members => by
    rw [membersAt]
    have first := careful_valueAt maker depth schema
      fun holds => countable holds _ List.mem_cons_self
    have others := careful_membersAt maker depth required rest
      fun holds property declared => countable holds property (List.mem_cons_of_mem _ declared)
    apply (careful_included maker.policy required name).bind
    intro present
    cases present with
    | false => exact others members
    | true => exact first.bind fun value => others (Json.put name value members)

end

theorem careful_value (maker : Maker) {schema : Schema} (countable : fine → schema.Countable) :
    (maker.value schema : Draw (Watched σ) Json).Careful fine :=
  maker.careful_valueAt 0 schema countable

/-- Whatever the patterns are, a refusal is not forgotten. -/
theorem careful_value_false (maker : Maker) (schema : Schema) :
    (maker.value schema : Draw (Watched σ) Json).Careful False :=
  maker.careful_value nofun

/-- What is drawn for a schema in a run without a refusal is the result of a draw of its own. -/
theorem completes_value (maker : Maker) (schema : Schema) :
    (maker.value schema : Draw (Watched σ) Json).Completes fun body =>
      ∃ words : σ, (maker.value schema : Draw (Watched σ) Json).result? words = some body :=
  (maker.careful_value_false schema).completes

end Maker

end Mock

end ApiStub
