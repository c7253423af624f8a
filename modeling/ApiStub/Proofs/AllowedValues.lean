import ApiStub.Proofs.Conformance
import ApiStub.Proofs.UnspentBudget

/-!
# Allowed values

A list of allowed values has a say where an object of the document is read by its type, and the
type is that of a scalar. Then a value is drawn from the list. Everywhere else, also where there is
no type and so an object is drawn, the list might as well not be there: a value is drawn as for the
object of the document without it.
-/

namespace ApiStub

namespace Api

variable {root : Json} {members : Members} {allowance used : Nat}

/-- An object of the document that is read by its type, and the type is that of a scalar. -/
structure ScalarTyped (members : Members) : Prop where
  plain : reference? (.object members) = none
  unmerged : branches? members "allOf" = none
  sole : alternative? members = none
  type : ∃ type ∈ ["string", "integer", "number", "boolean"],
    declaredType? (.object members) = some type

/-- The members but for the list of allowed values. -/
def withoutEnum (members : Members) : Members := members.filter fun entry => entry.1 != "enum"

/-- The node with nothing listed as allowed. -/
def Schema.withoutAllowed (node : Schema) : Schema :=
  node.withMarks { node.marks with allowed := [] }

@[simp]
theorem find?_withoutEnum {keyword : String} (other : keyword ≠ "enum") :
    Json.find? (withoutEnum members) keyword = Json.find? members keyword := by
  rw [Json.find?, Json.find?, withoutEnum, List.find?_filter]
  congr 2
  funext entry
  by_cases same : entry.1 = keyword
  · simp [same, other]
  · simp [same]

theorem allowedValues_withoutEnum (members : Members) : allowedValues (withoutEnum members) = [] := by
  have gone : Json.find? (withoutEnum members) "enum" = none := by
    simp [Json.find?, withoutEnum, List.find?_filter]
  rw [allowedValues, gone]
  rfl

theorem reference?_withoutEnum (members : Members) :
    reference? (.object (withoutEnum members)) = reference? (.object members) := by
  simp [reference?, Json.get?]

theorem branches?_withoutEnum :
    branches? (withoutEnum members) "allOf" = branches? members "allOf" := by
  simp [branches?]

theorem alternative?_withoutEnum (members : Members) :
    alternative? (withoutEnum members) = alternative? members := by
  simp [alternative?, branches?]

theorem example?_withoutEnum (members : Members) :
    example? (withoutEnum members) = example? members := by
  simp [example?]

theorem declaredType?_withoutEnum (members : Members) :
    declaredType? (.object (withoutEnum members)) = declaredType? (.object members) := by
  simp [declaredType?, Json.get?]

theorem stringFacets_withoutEnum (members : Members) :
    stringFacets (withoutEnum members) = stringFacets members := by
  simp [stringFacets, textOf?, sizeBounds]

theorem valueBounds_withoutEnum (members : Members) :
    valueBounds (withoutEnum members) = valueBounds members := by
  simp [valueBounds]

theorem sizeBounds_withoutEnum (members : Members) :
    sizeBounds (withoutEnum members) "minItems" "maxItems" =
      sizeBounds members "minItems" "maxItems" := by
  simp [sizeBounds]

section Expansion

variable (visit : Json → Nat → Expansion Schema)

theorem expandItems_withoutEnum (members : Members) (allowance : Nat) :
    expandItems visit (withoutEnum members) allowance = expandItems visit members allowance := by
  simp [expandItems]

theorem expandShape_withoutEnum (members : Members) (allowance : Nat) :
    expandShape visit (withoutEnum members) allowance = expandShape visit members allowance := by
  simp [expandShape]

/-- What is read by its type has the marks of its members. -/
theorem marks_expandTyped (members : Members) (allowance used : Nat) :
    (expandTyped visit members allowance used).1.marks =
      { example? := example? members, allowed := allowedValues members } := by
  simp only [expandTyped]
  generalize declaredType? (.object members) = type?
  split
  · rfl
  · rfl
  · rfl
  · rfl
  · rfl
  · rfl
  · rfl
  · split
    · rfl
    · rfl

theorem isScalar_expandTyped_iff (members : Members) (allowance used : Nat) :
    (expandTyped visit members allowance used).1.isScalar = true ↔
      ∃ type ∈ ["string", "integer", "number", "boolean"],
        declaredType? (.object members) = some type := by
  simp only [expandTyped]
  generalize declaredType? (.object members) = type?
  split
  · exact iff_of_true rfl ⟨"string", by simp⟩
  · exact iff_of_true rfl ⟨"integer", by simp⟩
  · exact iff_of_true rfl ⟨"number", by simp⟩
  · exact iff_of_true rfl ⟨"boolean", by simp⟩
  · exact iff_of_false Bool.false_ne_true (by simp)
  · exact iff_of_false Bool.false_ne_true (by simp)
  · rename_i string integer number boolean _ _
    refine iff_of_false Bool.false_ne_true ?_
    rintro ⟨type, listed, ⟨⟩⟩
    simp only [List.mem_cons, List.not_mem_nil, or_false] at listed
    exact listed.elim string (·.elim integer (·.elim number boolean))
  · refine iff_of_false (by split <;> exact Bool.false_ne_true) (by simp)

/-- Without the list the same schema is read, but that nothing is listed in it. -/
theorem expandTyped_withoutEnum (members : Members) (allowance : Nat) :
    expandTyped visit (withoutEnum members) allowance =
      Schema.withoutAllowed <$> expandTyped visit members allowance := by
  have items : Json.find? (withoutEnum members) "items" = Json.find? members "items" := by simp
  simp only [expandTyped, declaredType?_withoutEnum, allowedValues_withoutEnum,
    example?_withoutEnum, stringFacets_withoutEnum, valueBounds_withoutEnum,
    sizeBounds_withoutEnum, expandItems_withoutEnum, expandShape_withoutEnum, items]
  generalize declaredType? (.object members) = type?
  split
  · rfl
  · rfl
  · rfl
  · rfl
  · rfl
  · rfl
  · rfl
  · split
    · rfl
    · rfl

/-- Where schemas are combined, the list is not read at all. -/
theorem expandMembers_withoutEnum_of_combined {members : Members}
    (combined : branches? members "allOf" ≠ none ∨ alternative? members ≠ none)
    (allowance : Nat) :
    expandMembers visit (withoutEnum members) allowance = expandMembers visit members allowance := by
  simp only [expandMembers, branches?_withoutEnum, alternative?_withoutEnum,
    example?_withoutEnum, expandShape_withoutEnum]
  cases merged : branches? members "allOf" with
  | some branches => rfl
  | none =>
      cases sole : alternative? members with
      | some branch => rfl
      | none => simp [merged, sole] at combined

theorem expandMembers_of_typed {members : Members} (unmerged : branches? members "allOf" = none)
    (sole : alternative? members = none) (allowance : Nat) :
    expandMembers visit members allowance = expandTyped visit members allowance := by
  simp only [expandMembers, unmerged, sole]

end Expansion

/-- A reference does not look at the list beside it. -/
theorem follow?_withoutEnum {reference : String}
    (refers : reference? (.object members) = some reference) :
    follow? root allowance (.object (withoutEnum members)) =
      follow? root allowance (.object members) := by
  unfold follow?
  rw [reference?_withoutEnum, refers]

theorem expandFrom_of_typed (plain : reference? (.object members) = none)
    (unmerged : branches? members "allOf" = none) (sole : alternative? members = none)
    (within : used < nodeBudget) :
    expandFrom root nodeBudget (.object members) allowance used =
      expandTyped (expandFrom root nodeBudget) members allowance (used + 1) := by
  rw [expandFrom_nodeBudget, visitOnce_of_open within (follow?_of_not_reference allowance plain),
    expandMembers_of_typed _ unmerged sole]

/-- The schema that is read without the list is the same; or it is read by the same type, and
differs in what is listed as allowed. -/
theorem expandFrom_withoutEnum (root : Json) (members : Members) (allowance used : Nat) :
    let node := (expandFrom root nodeBudget (.object members) allowance used).1
    let bare := (expandFrom root nodeBudget (.object (withoutEnum members)) allowance used).1
    bare = node ∨ bare = node.withoutAllowed ∧ (node.isScalar = true → ScalarTyped members) := by
  intro node bare
  by_cases within : used < nodeBudget
  · cases refers : reference? (.object members) with
    | some reference =>
        left
        simp only [bare, node, expandFrom_nodeBudget, visitOnce, follow?_withoutEnum refers]
    | none =>
        have bareRefers := (reference?_withoutEnum members).trans refers
        by_cases combined : branches? members "allOf" ≠ none ∨ alternative? members ≠ none
        · left
          simp only [bare, node, expandFrom_nodeBudget,
            visitOnce_of_open within (follow?_of_not_reference allowance refers),
            visitOnce_of_open within (follow?_of_not_reference allowance bareRefers),
            expandMembers_withoutEnum_of_combined _ combined]
        · right
          rw [not_or, not_not, not_not] at combined
          rcases combined with ⟨unmerged, sole⟩
          have read : node =
              (expandTyped (expandFrom root nodeBudget) members allowance (used + 1)).1 := by
            rw [← expandFrom_of_typed refers unmerged sole within]
          have bareRead : bare = (expandTyped (expandFrom root nodeBudget) (withoutEnum members)
              allowance (used + 1)).1 := by
            rw [← expandFrom_of_typed bareRefers (branches?_withoutEnum.trans unmerged)
              ((alternative?_withoutEnum members).trans sole) within]
          rw [bareRead, read, expandTyped_withoutEnum]
          refine ⟨rfl, fun scalar => ⟨refers, unmerged, sole, ?_⟩⟩
          exact (isScalar_expandTyped_iff _ members allowance (used + 1)).mp scalar
  · left
    have spent := Nat.not_lt.mp within
    simp only [bare, node, expandFrom_of_shut nodeBudget (.inl spent)]

end Api

namespace Mock.Maker

open Api (Marks Schema)

variable {σ : Type} [WordSource σ]

/-- A scalar without an example takes one of its allowed values, if it has any. -/
theorem yields_allowed (maker : Maker) {depth : Nat} {node : Schema} (scalar : node.isScalar = true)
    (unmarked : node.marks.example? = none) (listed : node.marks.allowed ≠ [])
    (shallow : depth ≤ maker.policy.maxDepth) :
    (maker.valueAt depth node : Draw σ Json).Yields (· ∈ node.marks.allowed) := by
  have drawn : ∀ other : Draw σ Json,
      (guarded maker.policy depth node (allowedOr node.marks other)).Yields
        (· ∈ node.marks.allowed) := by
    intro other
    simp only [guarded, unmarked, if_neg (Nat.not_lt.mpr shallow), allowedOr]
    refine (Draw.yields_choose? listed).bind fun chosen found => ?_
    rcases found with ⟨value, mem, rfl⟩
    exact Draw.yields_pure mem
  cases node with
  | string | integer | number | boolean =>
      rw [valueAt]
      exact drawn _
  | array | object | unknown => cases scalar

/-- Allowed values are for scalars only. -/
theorem valueAt_withoutAllowed (maker : Maker) (depth : Nat) {node : Schema}
    (other : node.isScalar = false) :
    (maker.valueAt depth node.withoutAllowed : Draw σ Json) = maker.valueAt depth node := by
  cases node with
  | string | integer | number | boolean => cases other
  | array marks items size =>
      cases items with
      | none =>
          simp only [Schema.withoutAllowed, Schema.withMarks]
          rw [valueAt, valueAt]
          rfl
      | some items =>
          simp only [Schema.withoutAllowed, Schema.withMarks]
          rw [valueAt, valueAt]
          rfl
  | object | unknown =>
      simp only [Schema.withoutAllowed, Schema.withMarks]
      rw [valueAt, valueAt]
      rfl

end Mock.Maker

namespace Api

open Mock (Maker)

/-- Where an object of the document is read by the type of a scalar, a value is one of those that
its `enum` lists. Every other one gives the values that it gives without the `enum`. -/
theorem allowed_of_scalarTyped {root : Json} {members : Members} {allowance used : Nat}
    (unmarked : example? members = none) (listed : allowedValues members ≠ [])
    (within : (expandFrom root nodeBudget (.object members) allowance used).2 ≤ nodeBudget)
    {σ : Type} [WordSource σ] (maker : Maker) {depth : Nat}
    (shallow : depth ≤ maker.policy.maxDepth) :
    let node := (expandFrom root nodeBudget (.object members) allowance used).1
    let bare := (expandFrom root nodeBudget (.object (withoutEnum members)) allowance used).1
    (ScalarTyped members →
      (maker.valueAt depth node : Draw σ Json).Yields (· ∈ allowedValues members)) ∧
    (¬ScalarTyped members →
      (maker.valueAt depth node : Draw σ Json) = maker.valueAt depth bare) := by
  intro node bare
  constructor
  · rintro ⟨plain, unmerged, sole, type⟩
    have unspent : used < nodeBudget :=
      Nat.lt_of_lt_of_le (lt_expandFrom root (.object members) nodeBudget allowance used) within
    have read : node =
        (expandTyped (expandFrom root nodeBudget) members allowance (used + 1)).1 := by
      rw [← expandFrom_of_typed plain unmerged sole unspent]
    have scalar : node.isScalar = true := by
      rw [read]
      exact (isScalar_expandTyped_iff _ members allowance (used + 1)).mpr type
    have marks : node.marks = { example? := none, allowed := allowedValues members } := by
      rw [read, marks_expandTyped, unmarked]
    have drawn := maker.yields_allowed (σ := σ) scalar (by rw [marks]) (by rwa [marks]) shallow
    rwa [marks] at drawn
  · intro other
    rcases expandFrom_withoutEnum root members allowance used with same | ⟨same, typed⟩
    · rw [show bare = node from same]
    · have notScalar : node.isScalar = false := by
        rw [← Bool.not_eq_true]
        exact fun scalar => other (typed scalar)
      rw [show bare = node.withoutAllowed from same, maker.valueAt_withoutAllowed depth notScalar]

/-- A switch that may be missing, written with a list of types. -/
def switch : Members := [
  ("type", .array [.string "null", .string "string"]),
  ("enum", .array [.string "on", .string "off"])]

theorem allowed_of_scalarTyped_switch :
    example? switch = none ∧ allowedValues switch ≠ [] ∧
    (expandFrom (.object switch) nodeBudget (.object switch) 8 0).2 ≤ nodeBudget ∧
    ScalarTyped switch ∧
      (({} : Maker).valueAt 0 (expandFrom (.object switch) nodeBudget (.object switch) 8 0).1 :
        Draw ScriptedWords Json).Yields (· ∈ allowedValues switch) := by
  have typed : ScalarTyped switch := ⟨rfl, rfl, rfl, "string", by simp, by decide⟩
  have listed : allowedValues switch ≠ [] := List.cons_ne_nil _ _
  have within : (expandFrom (.object switch) nodeBudget (.object switch) 8 0).2 ≤ nodeBudget := by
    decide
  refine ⟨rfl, listed, within, typed, ?_⟩
  exact (allowed_of_scalarTyped rfl listed within {} (Nat.zero_le _)).1 typed

/-- The same switch without a type. -/
def untypedSwitch : Members := [("enum", .array [.string "on", .string "off"])]

/-- It gives an object, which the `enum` does not list. -/
theorem unlisted_of_untypedSwitch :
    example? untypedSwitch = none ∧ allowedValues untypedSwitch = [.string "on", .string "off"] ∧
    (expandFrom (.object untypedSwitch) nodeBudget (.object untypedSwitch) 8 0).2 ≤ nodeBudget ∧
    .object [] ∉ allowedValues untypedSwitch ∧
    ∀ source : ScriptedWords,
      ((({} : Maker).value (expand (.object untypedSwitch) (.object untypedSwitch) 8)).run
        source).1 = .object [] := by
  refine ⟨rfl, rfl, by decide, ?_, fun source => rfl⟩
  simp [allowedValues, untypedSwitch, Json.find?, Json.items?]

end Api

end ApiStub
