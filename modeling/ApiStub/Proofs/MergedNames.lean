import ApiStub.Proofs.AllOfKind
import ApiStub.Proofs.DistinctNames

/-!
# The names of merged objects

An `allOf` with an object among its branches becomes one object: first the properties that the outer
object declares itself, then those of each branch that is an object. A name that comes again keeps
its first place and takes its last schema, and what any of them requires is required.

`Merges` says this of a shape and of what was merged into it so far, and is kept by every branch.
-/

namespace ApiStub

namespace Json

variable {α : Type}

theorem find?_cons (first : String × α) (rest : List (String × α)) (name : String) :
    find? (first :: rest) name = if first.1 = name then some first.2 else find? rest name := by
  by_cases same : first.1 = name
  · simp [find?, same]
  · simp [find?, same]

theorem find?_of_not_mem {members : List (String × α)} {name : String}
    (absent : name ∉ members.map (·.1)) : find? members name = none := by
  rw [find?, Option.map_eq_none_iff, List.find?_eq_none]
  intro first mem same
  exact absent (List.mem_map.mpr ⟨first, mem, by simpa using same⟩)

theorem find?_put (name : String) (value : α) (members : List (String × α)) (other : String) :
    find? (put name value members) other =
      if name = other then some value else find? members other := by
  induction members with
  | nil => rw [put, find?_cons]
  | cons first rest ih =>
      by_cases same : first.1 = name
      · rw [put, if_pos (by simpa using same), find?_cons, find?_cons, same]
        split
        · rfl
        · rfl
      · rw [put, if_neg (by simpa using same), find?_cons, find?_cons, ih]
        split
        · rename_i here
          rw [if_neg fun there => same (here.trans there.symm)]
        · rfl

theorem eraseDups_of_nodup {names : List String} (distinct : names.Nodup) :
    names.eraseDups = names := by
  induction names with
  | nil => rfl
  | cons name rest ih =>
      rcases List.nodup_cons.mp distinct with ⟨fresh, others⟩
      have kept : rest.filter (fun other => !other == name) = rest := by
        refine List.filter_eq_self.mpr fun other mem => ?_
        have differs : other ≠ name := fun same => fresh (same ▸ mem)
        simpa using differs
      rw [List.eraseDups_cons, kept, ih others]

/-- Names that are set one after the other stand where they came first. -/
theorem names_foldl_put {pairs members : List (String × α)} {names : List String}
    (start : members.map (·.1) = names.eraseDups) :
    (pairs.foldl (fun members pair => put pair.1 pair.2 members) members).map (·.1) =
      (names ++ pairs.map (·.1)).eraseDups := by
  induction pairs generalizing members names with
  | nil => simpa using start
  | cons pair rest ih =>
      have next : (put pair.1 pair.2 members).map (·.1) = (names ++ [pair.1]).eraseDups := by
        rw [names_put, start, eraseDups_append_singleton]
        simp only [List.mem_eraseDups]
      rw [List.foldl_cons, ih next]
      simp

/-- Of pairs with distinct names each one is found, and before what was there. -/
theorem find?_foldl_put {pairs : List (String × α)} (distinct : (pairs.map (·.1)).Nodup)
    (members : List (String × α)) (name : String) :
    find? (pairs.foldl (fun members pair => put pair.1 pair.2 members) members) name =
      (find? pairs name).or (find? members name) := by
  induction pairs generalizing members with
  | nil => rfl
  | cons pair rest ih =>
      rcases List.nodup_cons.mp distinct with ⟨fresh, others⟩
      rw [List.foldl_cons, ih others, find?_put, find?_cons]
      split
      · rename_i same
        rw [find?_of_not_mem (same ▸ fresh), Option.none_or, Option.some_or]
      · rfl

end Json

namespace Api

namespace ObjectShape

/-- A shape is put together of an object's own one and of others, in their order. -/
structure Merges (shape own : ObjectShape) (others : List ObjectShape) : Prop where
  /-- A name stands where it is declared first. -/
  names : shape.properties.map (·.1) =
    ((own :: others).flatMap fun source => source.properties.map (·.1)).eraseDups
  /-- The last one to declare a name gives its schema. -/
  schemas : ∀ name, Json.find? shape.properties name =
    (own :: others).reverse.findSome? fun source => Json.find? source.properties name
  required : ∀ name, name ∈ shape.required ↔ ∃ source ∈ own :: others, name ∈ source.required
  /-- A name that the object does not require itself is listed once. -/
  once : ∀ name, name ∉ own.required → shape.required.count name ≤ 1

section Merges

variable {shape own : ObjectShape} {others : List ObjectShape}
  {properties : List (String × Schema)} {required : List String}

theorem properties_merge (shape : ObjectShape) (properties : List (String × Schema))
    (required : List String) :
    (shape.merge properties required).properties =
      properties.foldl (fun members pair => Json.put pair.1 pair.2 members) shape.properties := by
  rw [merge, properties_foldl_require]
  induction properties generalizing shape with
  | nil => rfl
  | cons property rest ih => exact ih (shape.setProperty property.1 property.2)

theorem required_foldl_setProperty (shape : ObjectShape) (properties : List (String × Schema)) :
    (properties.foldl (fun shape property => shape.setProperty property.1 property.2)
      shape).required = shape.required := by
  induction properties generalizing shape with
  | nil => rfl
  | cons property rest ih => exact ih (shape.setProperty property.1 property.2)

theorem mem_required_foldl_require_iff (shape : ObjectShape) (names : List String) (name : String) :
    name ∈ (names.foldl require shape).required ↔ name ∈ shape.required ∨ name ∈ names := by
  induction names generalizing shape with
  | nil => simp
  | cons first rest ih =>
      rw [List.foldl_cons, ih, require]
      split
      · rename_i there
        have listed : first ∈ shape.required := by simpa [requires] using there
        rw [List.mem_cons]
        constructor
        · exact Or.imp_right .inr
        · rintro (before | rfl | later)
          · exact .inl before
          · exact .inl listed
          · exact .inr later
      · rw [addRequired, List.mem_append, List.mem_singleton, List.mem_cons, or_assoc]

/-- A name is added only where it is not listed. -/
theorem count_required_foldl_require_le (shape : ObjectShape) (names : List String)
    (name : String) :
    (names.foldl require shape).required.count name ≤ max (shape.required.count name) 1 := by
  induction names generalizing shape with
  | nil => exact Nat.le_max_left _ _
  | cons first rest ih =>
      have later := ih (shape.require first)
      rw [List.foldl_cons]
      refine Nat.le_trans later ?_
      rw [require]
      split
      · exact Nat.le_refl _
      · rename_i absent
        rw [addRequired, List.count_append, List.count_singleton]
        by_cases same : first = name
        · subst same
          have none : shape.required.count first = 0 :=
            List.count_eq_zero_of_not_mem (by simpa [requires] using absent)
          simp [none]
        · simp [same]

theorem merges_own (distinct : own.DistinctNames) : own.Merges own [] where
  names := by simp [Json.eraseDups_of_nodup distinct.1]
  schemas name := by simp
  required name := by simp
  once name absent := by simp [List.count_eq_zero_of_not_mem absent]

theorem Merges.merge (merges : shape.Merges own others)
    (distinct : (properties.map (·.1)).Nodup) (required : List String) :
    (shape.merge properties required).Merges own (others ++ [⟨properties, required⟩]) where
  names := by
    rw [properties_merge, Json.names_foldl_put merges.names]
    simp
  schemas name := by
    rw [properties_merge, Json.find?_foldl_put distinct, merges.schemas, ← List.cons_append,
      List.reverse_append, List.reverse_singleton, List.singleton_append, List.findSome?_cons]
    cases Json.find? properties name with
    | none => rfl
    | some schema => rfl
  required name := by
    rw [ObjectShape.merge, mem_required_foldl_require_iff, required_foldl_setProperty,
      merges.required, ← List.cons_append]
    simp only [List.mem_append, List.mem_singleton, or_and_right, exists_or, exists_eq_left]
  once name absent := by
    have before := merges.once name absent
    rw [ObjectShape.merge]
    refine Nat.le_trans (count_required_foldl_require_le _ required name) ?_
    rw [required_foldl_setProperty]
    omega

end Merges

end ObjectShape

/-- The properties and required names of an object schema. -/
def Schema.shape? : Schema → Option ObjectShape
  | .object _ properties required => some ⟨properties, required⟩
  | _ => none

namespace Merge

/-- Each branch that is an object is merged in its turn. -/
theorem merges_foldl_add {state : Merge} {own : ObjectShape} {others : List ObjectShape}
    (merges : state.shape.Merges own others) {schemas : List Schema}
    (distinct : ∀ schema ∈ schemas, schema.DistinctNames) :
    (schemas.foldl add state).shape.Merges own (others ++ schemas.filterMap Schema.shape?) := by
  induction schemas generalizing state others with
  | nil => simpa using merges
  | cons schema rest ih =>
      rcases List.forall_mem_cons.mp distinct with ⟨first, later⟩
      rw [List.foldl_cons]
      cases schema with
      | object marks properties required =>
          have names := (Schema.distinctNames_object_iff.mp first).1
          have next : (state.add (.object marks properties required)).shape.Merges own
              (others ++ [⟨properties, required⟩]) := merges.merge names required
          simpa [Schema.shape?] using ih next later
      | _ => exact ih merges later

end Merge

/-- Property names are distinct in every object schema of a description. An `allOf` with an object
among its branches is the object that is merged of the outer one and of those branches. -/
theorem merges_of_allOf {document : Json} (distinct : document.DistinctNames) (allowance : Nat) :
    (∀ schema ∈ (Description.ofDocument document allowance).schemas, schema.DistinctNames) ∧
    ∀ {value : Json} {members : Members} {branches : List Json} {reach left used : Nat},
      document.Holds value → used < nodeBudget →
      follow? document reach value = some (.object members, left) →
      branches? members "allOf" = some branches →
      let own := visitAll (expandFrom document nodeBudget) left (propertyPlaces members) (used + 1)
      let others := visitAll (expandFrom document nodeBudget) left branches own.2
      .object ∈ others.1.map Schema.kind →
      ∃ shape : ObjectShape,
        (expandFrom document nodeBudget value reach used).1 =
          shape.toSchema { example? := example? members } ∧
        shape.Merges (shapeOf members own.1) (others.1.filterMap Schema.shape?) := by
  refine ⟨fun schema => distinctNames_of_mem_schemas distinct, ?_⟩
  intro value members branches reach left used held within followed combined own others anObject
  have target : (Json.object members).DistinctNames :=
    distinctNames_of_follow? distinct (distinct.part held) followed
  have ownDistinct : (shapeOf members own.1).DistinctNames := by
    rcases yields_visitAll (fun place mem => yields_expandFrom distinct
      (target.part (holds_of_propertyPlaces mem)) nodeBudget left) (used + 1) with ⟨length, below⟩
    exact distinctNames_shapeOf target length below
  have othersDistinct : ∀ schema ∈ others.1, schema.DistinctNames :=
    (yields_visitAll (fun place mem => yields_expandFrom distinct
      (target.part (holds_of_branches? combined mem)) nodeBudget left) own.2).2
  have start : ({ shape := shapeOf members own.1 } : Merge).shape.Merges
      (shapeOf members own.1) [] := ObjectShape.merges_own ownDistinct
  have merges := Merge.merges_foldl_add start othersDistinct
  refine ⟨_, ?_, merges⟩
  rw [expandFrom_nodeBudget, visitOnce_of_open within followed,
    expandMembers_of_branches _ combined]
  have saw := (Merge.sawObject_foldl_add_iff others.1 { shape := shapeOf members own.1 }).mpr
    (.inr anObject)
  change ((others.1.foldl Merge.add { shape := shapeOf members own.1 }).result.replaceExample
    (example? members)) = _
  rw [Merge.result_of_sawObject saw]
  cases example? members with
  | none => rfl
  | some value => rfl

/-- An object with a text and two objects among its branches, of which the last one declares the
object's own property anew. -/
def extendedPet : Members := [
  ("properties", .object [("id", .object [("type", .string "integer")])]),
  ("required", .array [.string "id"]),
  ("allOf", .array [
    .object [
      ("properties", .object [("name", .object [("type", .string "string")])]),
      ("required", .array [.string "name", .string "name"])],
    .object [("type", .string "string")],
    .object [
      ("properties", .object [
        ("tag", .object [("type", .string "boolean")]),
        ("id", .object [("type", .string "string")])]),
      ("required", .array [.string "tag", .string "name"])]])]

theorem merges_of_allOf_extendedPet :
    (Json.object extendedPet).DistinctNames ∧ 0 < nodeBudget ∧
    ∃ (shape own : ObjectShape) (others : List ObjectShape),
      expand (.object extendedPet) (.object extendedPet) 8 = shape.toSchema ∧
      shape.Merges own others ∧ own.required = ["id"] ∧
      others.map (·.required) = [["name", "name"], ["tag", "name"]] ∧
      shape.properties = [("id", .string {} {}), ("name", .string {} {}), ("tag", .boolean {})] ∧
      shape.required = ["id", "name", "tag"] := by
  have distinct : (Json.object extendedPet).DistinctNames := by simp [extendedPet]
  have within : 0 < nodeBudget := by decide
  have followed : follow? (.object extendedPet) 8 (.object extendedPet) =
      some (.object extendedPet, 8) := rfl
  rcases (merges_of_allOf distinct 8).2 (.whole _) within followed rfl (by decide) with
    ⟨shape, whole, merges⟩
  have read : expand (.object extendedPet) (.object extendedPet) 8 =
      .object {} [("id", .string {} {}), ("name", .string {} {}), ("tag", .boolean {})]
        ["id", "name", "tag"] := rfl
  have parts : Schema.object {} shape.properties shape.required = .object {}
      [("id", .string {} {}), ("name", .string {} {}), ("tag", .boolean {})]
      ["id", "name", "tag"] := whole.symm.trans read
  rcases Schema.object.inj parts with ⟨-, properties, required⟩
  exact ⟨distinct, within, shape, _, _, whole, merges, rfl, rfl, properties, required⟩

end Api

end ApiStub
