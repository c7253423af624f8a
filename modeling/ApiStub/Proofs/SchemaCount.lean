import ApiStub.Api.Expansion

/-!
# Counting the nodes of a schema

`count p` is the number of nodes that satisfy `p`, so that one set of lemmas serves the number of
all nodes and the number of those that are no placeholder. `countBelow` leaves the root out: an
example put on a node changes the root and nothing below it.

Merging the branches of an `allOf` loses nodes and gains none.
-/

namespace ApiStub.Api

namespace Schema

mutual

/-- How many nodes of a schema satisfy a condition. -/
def count (p : Schema → Bool) : Schema → Nat
  | array marks items size => (p (array marks items size)).toNat + countItems p items
  | object marks properties required =>
    (p (object marks properties required)).toNat + countProperties p properties
  | leaf => (p leaf).toNat

def countItems (p : Schema → Bool) : Option Schema → Nat
  | none => 0
  | some items => count p items

def countProperties (p : Schema → Bool) : List (String × Schema) → Nat
  | [] => 0
  | (_, schema) :: rest => count p schema + countProperties p rest

end

/-- How many nodes below the root satisfy a condition. -/
def countBelow (p : Schema → Bool) : Schema → Nat
  | array _ items _ => countItems p items
  | object _ properties _ => countProperties p properties
  | _ => 0

def countAll (p : Schema → Bool) (schemas : List Schema) : Nat := (schemas.map (count p)).sum

section Count

variable (p : Schema → Bool)

theorem count_eq (schema : Schema) : schema.count p = (p schema).toNat + schema.countBelow p := by
  cases schema <;> simp [count, countBelow]

@[simp]
theorem countBelow_withMarks (schema : Schema) (marks : Marks) :
    (schema.withMarks marks).countBelow p = schema.countBelow p := by
  cases schema <;> rfl

@[simp]
theorem countBelow_replaceExample (schema : Schema) (example? : Option Json) :
    (schema.replaceExample example?).countBelow p = schema.countBelow p := by
  cases example? <;> simp [replaceExample]

theorem count_le (schema : Schema) : schema.count p ≤ 1 + schema.countBelow p := by
  rw [count_eq]
  have := Bool.toNat_le (p schema)
  omega

theorem countBelow_le_count (schema : Schema) : schema.countBelow p ≤ schema.count p := by
  rw [count_eq]
  omega

@[simp]
theorem countAll_nil : countAll p [] = 0 := rfl

@[simp]
theorem countAll_cons (schema : Schema) (rest : List Schema) :
    countAll p (schema :: rest) = schema.count p + countAll p rest := by
  simp [countAll]

@[simp]
theorem countAll_append (first second : List Schema) :
    countAll p (first ++ second) = countAll p first + countAll p second := by
  simp [countAll]

theorem countProperties_zip_le (names : List String) (schemas : List Schema) :
    countProperties p (names.zip schemas) ≤ countAll p schemas := by
  induction names generalizing schemas with
  | nil => simp [countProperties]
  | cons name names ih =>
      cases schemas with
      | nil => simp [countProperties]
      | cons schema schemas =>
          simp only [List.zip_cons_cons, countProperties, countAll_cons]
          have := ih schemas
          omega

theorem countProperties_put_le (name : String) (schema : Schema)
    (properties : List (String × Schema)) :
    countProperties p (Json.put name schema properties) ≤
      countProperties p properties + schema.count p := by
  induction properties with
  | nil => simp [Json.put, countProperties]
  | cons property rest ih =>
      simp only [Json.put]
      split <;> simp only [countProperties] <;> omega

end Count

end Schema

open Schema

/-- Required names leave the properties alone. -/
theorem ObjectShape.properties_foldl_require (required : List String) (shape : ObjectShape) :
    (required.foldl require shape).properties = shape.properties := by
  induction required generalizing shape with
  | nil => rfl
  | cons name rest ih =>
      rw [List.foldl_cons, ih]
      simp only [require, addRequired]
      split <;> rfl

theorem countProperties_merge_le (p : Schema → Bool) (shape : ObjectShape)
    (properties : List (String × Schema)) (required : List String) :
    countProperties p (shape.merge properties required).properties ≤
      countProperties p shape.properties + countProperties p properties := by
  rw [ObjectShape.merge, ObjectShape.properties_foldl_require]
  induction properties generalizing shape with
  | nil => simp
  | cons property rest ih =>
      rw [List.foldl_cons]
      have rest_le := ih (shape.setProperty property.1 property.2)
      have first_le := countProperties_put_le p property.1 property.2 shape.properties
      simp only [ObjectShape.setProperty] at rest_le ⊢
      simp only [countProperties]
      omega

namespace Merge

def count (p : Schema → Bool) (state : Merge) : Nat :=
  countProperties p state.shape.properties + countItems p state.firstOther

theorem count_initial (p : Schema → Bool) (shape : ObjectShape) :
    count p { shape } = countProperties p shape.properties := rfl

theorem count_add_le (p : Schema → Bool) (state : Merge) (schema : Schema) :
    (state.add schema).count p ≤ state.count p + schema.count p := by
  have other : countItems p (state.firstOther.or (some schema)) ≤
      countItems p state.firstOther + schema.count p := by
    cases state.firstOther <;> simp [countItems]
  have below := countBelow_le_count p schema
  cases schema with
  | object marks properties required =>
      have merged := countProperties_merge_le p state.shape properties required
      simp only [add, count, countBelow] at below ⊢
      omega
  | _ =>
      simp only [add, count]
      omega

theorem count_foldl_add_le (p : Schema → Bool) (schemas : List Schema) (state : Merge) :
    (schemas.foldl add state).count p ≤ state.count p + countAll p schemas := by
  induction schemas generalizing state with
  | nil => simp
  | cons schema rest ih =>
      have rest_le := ih (state.add schema)
      have first_le := state.count_add_le p schema
      rw [List.foldl_cons, countAll_cons]
      omega

theorem countBelow_result_le (p : Schema → Bool) (state : Merge) :
    state.result.countBelow p ≤ state.count p := by
  simp only [result]
  split
  · rename_i other first _
    have below := countBelow_le_count p other
    simp only [count, first, countItems]
    omega
  · simp only [ObjectShape.toSchema, countBelow, count]
    omega

end Merge

end ApiStub.Api
