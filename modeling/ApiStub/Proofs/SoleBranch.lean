import ApiStub.Proofs.AllOfKind
import ApiStub.Proofs.DistinctNames

/-!
# An allOf of one branch

An object of the document that says nothing of its values but by an `allOf` of one branch means the
branch. What is no object comes through the merge as it is. An object is put together anew: its
properties come over in their order and its required names once each, but an example or a list of
allowed values that it carries is left behind. So values drawn for the whole are those drawn for the
branch, unless the branch is an object with an example.
-/

namespace ApiStub

namespace Api

/-- The schema with every required name of the node once. -/
def Schema.withoutRepeats : Schema → Schema
  | .object marks properties required => .object marks properties required.eraseDups
  | schema => schema

namespace Schema

@[simp]
theorem marks_withoutRepeats (schema : Schema) : schema.withoutRepeats.marks = schema.marks := by
  cases schema <;> rfl

theorem withoutRepeats_of_not_object {schema : Schema} (other : schema.kind ≠ .object) :
    schema.withoutRepeats = schema := by
  cases schema with
  | object => exact absurd rfl other
  | _ => rfl

theorem withMarks_marks (schema : Schema) : schema.withMarks schema.marks = schema := by
  cases schema <;> rfl

theorem withMarks_withMarks (schema : Schema) (first second : Marks) :
    (schema.withMarks first).withMarks second = schema.withMarks second := by
  cases schema <;> rfl

end Schema

namespace ObjectShape

theorem foldl_setProperty {shape : ObjectShape} {properties : List (String × Schema)}
    (fresh : (shape.properties.map (·.1) ++ properties.map (·.1)).Nodup) :
    properties.foldl (fun shape property => shape.setProperty property.1 property.2) shape =
      { shape with properties := shape.properties ++ properties } := by
  induction properties generalizing shape with
  | nil => rw [List.append_nil, List.foldl_nil]
  | cons property rest ih =>
      have unset : property.1 ∉ shape.properties.map (·.1) := by
        intro set
        exact (List.nodup_append.mp fresh).2.2 _ set _ List.mem_cons_self rfl
      have set : shape.setProperty property.1 property.2 =
          { shape with properties := shape.properties ++ [property] } := by
        rw [setProperty, Json.put_of_not_mem _ unset]
      rw [List.foldl_cons, set, ih (by simpa using fresh)]
      simp

theorem foldl_require {shape : ObjectShape} (empty : shape.required = []) (names : List String) :
    names.foldl require shape = { shape with required := names.eraseDups } := by
  -- A name is compared with the ones before it, so the induction takes names off the end.
  induction names using List.reverseRecOn with
  | nil => rw [List.foldl_nil, List.eraseDups_nil, ← empty]
  | append_singleton names name ih =>
      rw [List.foldl_append, ih, Json.eraseDups_append_singleton]
      by_cases before : name ∈ names
      · simp [require, requires, before]
      · simp [require, requires, addRequired, before]

theorem merge_empty {properties : List (String × Schema)}
    (distinct : (properties.map (·.1)).Nodup) (required : List String) :
    merge {} properties required = ⟨properties, required.eraseDups⟩ := by
  rw [merge, foldl_setProperty (by simpa using distinct), foldl_require rfl]
  rfl

end ObjectShape

/-- A merge of one branch into nothing takes over all but the marks of an object. -/
theorem Merge.result_single {schema : Schema} (distinct : schema.DistinctNames) :
    (Merge.add { shape := {} } schema).result =
      if schema.kind = .object then schema.withoutRepeats.withMarks {} else schema := by
  cases schema with
  | object marks properties required =>
      have names := (Schema.distinctNames_object_iff.mp distinct).1
      simp [Merge.add, Merge.result, ObjectShape.merge_empty names, ObjectShape.toSchema,
        Schema.kind, Schema.withoutRepeats, Schema.withMarks]
  | _ => rfl

/-- An object of the document that says nothing of its values but by an `allOf` of one branch. -/
structure Wraps (outer : Members) (branch : Json) : Prop where
  sole : branches? outer "allOf" = some [branch]
  silent : ∀ keyword ∈ ["$ref", "properties", "required", "example", "examples"],
    Json.find? outer keyword = none

section Wraps

variable {root branch : Json} {outer : Members} {allowance used : Nat}

theorem expandFrom_of_wraps (document : root.DistinctNames) (distinct : branch.DistinctNames)
    (wraps : Wraps outer branch)
    (within : (expandFrom root nodeBudget (.object outer) allowance used).2 ≤ nodeBudget) :
    (expandFrom root nodeBudget (.object outer) allowance used).1 =
      if (expand root branch allowance).kind = .object then
        (expand root branch allowance).withoutRepeats.withMarks {}
      else expand root branch allowance := by
  have reference := wraps.silent "$ref" (by simp)
  have properties := wraps.silent "properties" (by simp)
  have required := wraps.silent "required" (by simp)
  have plain : reference? (.object outer) = none := by
    rw [reference?, Json.get?, reference, Option.bind_none]
  have noExample : example? outer = none := by
    simp [example?, wraps.silent "example" (by simp), wraps.silent "examples" (by simp)]
  have noPlaces : propertyPlaces outer = [] := by simp [propertyPlaces, properties]
  have noShape : shapeOf outer [] = {} := by simp [shapeOf, properties, required]
  have names := distinctNames_expand document distinct allowance
  have unspent := Nat.lt_of_lt_of_le (lt_expandFrom root (.object outer) nodeBudget allowance used)
    within
  rw [expandFrom_nodeBudget,
    visitOnce_of_open unspent (follow?_of_not_reference allowance plain),
    expandMembers_of_branches _ wraps.sole, noPlaces, noExample] at within ⊢
  have inner : (expandFrom root nodeBudget branch allowance (used + 1)).1 =
      expand root branch allowance := expandFrom_eq_expand within
  change ((Merge.add { shape := shapeOf outer [] }
    (expandFrom root nodeBudget branch allowance (used + 1)).1).result) = _
  rw [noShape, inner, Merge.result_single names]

end Wraps

end Api

namespace Mock.Maker

open Api (Marks Schema)

section Drawing

variable {σ : Type} [WordSource σ]

theorem membersAt_eraseDups (maker : Maker) (depth : Nat) (required : List String)
    (properties : List (String × Schema)) (members : Members) :
    (maker.membersAt depth required.eraseDups properties members : Draw σ Members) =
      maker.membersAt depth required properties members := by
  have same : ∀ name, (included maker.policy required.eraseDups name : Draw σ Bool) =
      included maker.policy required name := by
    intro name
    simp [included]
  induction properties generalizing members with
  | nil => rw [membersAt, membersAt]
  | cons property rest ih =>
      rw [membersAt, membersAt, same]
      simp only [ih]

/-- An object draws alike with its required names once each and without marks, when there is no
example among these. -/
theorem valueAt_withMarks_withoutRepeats (maker : Maker) (depth : Nat) {schema : Schema}
    (isObject : schema.kind = .object) (unmarked : schema.marks.example? = none) :
    (maker.valueAt depth (schema.withoutRepeats.withMarks {}) : Draw σ Json) =
      maker.valueAt depth schema := by
  cases schema with
  | object marks properties required =>
      simp only [Schema.withoutRepeats, Schema.withMarks]
      rw [valueAt, valueAt, membersAt_eraseDups]
      -- Allowed values are for scalars only, so of the marks just the example has a say.
      simp only [guarded]
      rw [unmarked]
      rfl
  | _ => cases isObject

end Drawing

end Mock.Maker

namespace Api

open Mock (Maker)

/-- All of the branch but its marks is found in the whole, and the marks as well unless the branch
is an object that has some. Values are drawn alike at every level, unless the branch is an object
with an example. -/
theorem branch_kept_of_wraps {root branch : Json} {outer : Members} {allowance used : Nat}
    (document : root.DistinctNames) (distinct : branch.DistinctNames)
    (wraps : Wraps outer branch)
    (within : (expandFrom root nodeBudget (.object outer) allowance used).2 ≤ nodeBudget) :
    let whole := (expandFrom root nodeBudget (.object outer) allowance used).1
    let inner := expand root branch allowance
    (whole = inner.withoutRepeats ↔ (inner.kind = .object → inner.marks = {})) ∧
    whole.withMarks {} = inner.withoutRepeats.withMarks {} ∧
    ((inner.kind = .object → inner.marks.example? = none) →
      ∀ (σ : Type) [WordSource σ] (maker : Maker) (depth : Nat),
        (maker.valueAt depth whole : Draw σ Json) = maker.valueAt depth inner) := by
  intro whole inner
  have whole_eq : whole =
      if inner.kind = .object then inner.withoutRepeats.withMarks {} else inner :=
    expandFrom_of_wraps document distinct wraps within
  clear_value whole inner
  by_cases isObject : inner.kind = .object
  · rw [if_pos isObject] at whole_eq
    subst whole_eq
    refine ⟨?_, inner.withoutRepeats.withMarks_withMarks {} {}, fun unmarked σ _ maker depth => ?_⟩
    · constructor
      · intro same _
        rw [← inner.marks_withoutRepeats, ← same, Schema.marks_withMarks]
      · intro empty
        rw [← empty isObject, ← inner.marks_withoutRepeats, Schema.withMarks_marks]
    · exact maker.valueAt_withMarks_withoutRepeats depth isObject (unmarked isObject)
  · rw [if_neg isObject] at whole_eq
    subst whole_eq
    rw [Schema.withoutRepeats_of_not_object isObject]
    exact ⟨iff_of_true rfl fun contrary => absurd contrary isObject, rfl, fun _ _ _ _ _ => rfl⟩

/-- An object with an example, and without properties. -/
def markedObject : Json :=
  .object [("type", .string "object"), ("example", .object [("id", .int 7)])]

def wrappedObject : Members := [("allOf", .array [markedObject])]

/-- The whole loses the example, and no value drawn for it is the example. -/
theorem example_lost_of_wraps :
    (Json.object wrappedObject).DistinctNames ∧ markedObject.DistinctNames ∧
    Wraps wrappedObject markedObject ∧
    (expandFrom (.object wrappedObject) nodeBudget (.object wrappedObject) 8 0).2 ≤ nodeBudget ∧
    (expandFrom (.object wrappedObject) nodeBudget (.object wrappedObject) 8 0).1 ≠
      (expand (.object wrappedObject) markedObject 8).withoutRepeats ∧
    ∀ source : ScriptedWords,
      ((({} : Maker).value (expand (.object wrappedObject) markedObject 8)).run source).1 =
        .object [("id", .int 7)] ∧
      ((({} : Maker).value (expand (.object wrappedObject) (.object wrappedObject) 8)).run
        source).1 = .object [] := by
  have whole : (expandFrom (.object wrappedObject) nodeBudget (.object wrappedObject) 8 0).1 =
      .object {} [] [] := rfl
  have inner : expand (.object wrappedObject) markedObject 8 =
      .object { example? := some (.object [("id", .int 7)]) } [] [] := rfl
  have distinct : (Json.object wrappedObject).DistinctNames := by
    simp [wrappedObject, markedObject]
  refine ⟨distinct, by simp [markedObject], ⟨rfl, by simp [wrappedObject, Json.find?]⟩, by decide,
    ?_, fun source => ⟨?_, ?_⟩⟩
  · rw [whole, inner]
    simp [Schema.withoutRepeats]
  · rw [inner]
    rfl
  · rfl

/-- A document with a schema that has a required name twice. -/
def repeatingDocument : Json :=
  .object [("Pet", .object [
    ("required", .array [.string "id", .string "id"]),
    ("properties", .object [("id", .object [("type", .string "integer")])])])]

def wrappedReference : Members := [("allOf", .array [.object [("$ref", .string "#/Pet")]])]

/-- The schema behind the reference comes through, with its required name once. -/
theorem branch_kept_of_wraps_repeating :
    repeatingDocument.DistinctNames ∧
    (Json.object [("$ref", .string "#/Pet")]).DistinctNames ∧
    Wraps wrappedReference (.object [("$ref", .string "#/Pet")]) ∧
    (expandFrom repeatingDocument nodeBudget (.object wrappedReference) 8 0).2 ≤ nodeBudget ∧
    (expandFrom repeatingDocument nodeBudget (.object wrappedReference) 8 0).1 =
      .object {} [("id", .integer {} {})] ["id"] ∧
    ∀ maker : Maker,
      (maker.value (expandFrom repeatingDocument nodeBudget (.object wrappedReference) 8 0).1 :
        Draw ScriptedWords Json) =
      maker.value (.object {} [("id", .integer {} {})] ["id", "id"]) := by
  have document : repeatingDocument.DistinctNames := by simp [repeatingDocument]
  have distinct : (Json.object [("$ref", .string "#/Pet")]).DistinctNames := by simp
  have wraps : Wraps wrappedReference (.object [("$ref", .string "#/Pet")]) :=
    ⟨rfl, by simp [wrappedReference, Json.find?]⟩
  have within : (expandFrom repeatingDocument nodeBudget (.object wrappedReference) 8 0).2 ≤
      nodeBudget := by decide
  have facts := branch_kept_of_wraps document distinct wraps within
  have inner : expand repeatingDocument (.object [("$ref", .string "#/Pet")]) 8 =
      .object {} [("id", .integer {} {})] ["id", "id"] := rfl
  rw [inner] at facts
  refine ⟨document, distinct, wraps, within, facts.1.mpr fun _ => rfl, fun maker => ?_⟩
  exact facts.2.2 (fun _ => rfl) ScriptedWords maker 0

end Api

end ApiStub
