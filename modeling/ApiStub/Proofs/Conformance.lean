import ApiStub.Mock.Value
import ApiStub.Proofs.FillerText
import ApiStub.Random.SplitMix

/-!
# Values conform to their schemas

`Conforms` says which values may stand for a node, independently of how they are drawn: an example
first, then the deepest level, then the allowed values of a scalar, then the kind. The main result
is that a maker yields conforming values from every source of words.

An object is put together by setting one member after the other. With distinct names no member is
set twice, so the members drawn are a selection of the properties in their order; `Selected` is
that selection, and the clauses on an object are read off it.
-/

namespace ApiStub

namespace Api.Schema

/-- The node is the schema itself or lies below it. -/
inductive HasNode : Schema → Schema → Prop where
  | root (schema : Schema) : HasNode schema schema
  | items {marks : Marks} {items : Schema} {size : SizeBounds} {node : Schema}
      (below : HasNode items node) : HasNode (.array marks (some items) size) node
  | property {marks : Marks} {properties : List (String × Schema)} {required : List String}
      {name : String} {schema node : Schema} (declared : (name, schema) ∈ properties)
      (below : HasNode schema node) : HasNode (.object marks properties required) node

/-- Every object node of the schema declares pairwise distinct property names. -/
def DistinctNames (schema : Schema) : Prop :=
  ∀ marks properties required, schema.HasNode (.object marks properties required) →
    (properties.map (·.1)).Nodup

/-- Whether a list of allowed values goes before the kind of the node. -/
def isScalar : Schema → Bool
  | string _ _ | integer _ _ | number _ _ | boolean _ => true
  | array _ _ _ | object _ _ _ | unknown _ _ => false

theorem distinctNames_of_isScalar {schema : Schema} (scalar : schema.isScalar = true) :
    schema.DistinctNames := by
  intro marks properties required below
  cases below with
  | root => cases scalar
  | items below => cases scalar
  | property declared below => cases scalar

theorem distinctNames_array_iff {marks : Marks} {items : Schema} {size : SizeBounds} :
    DistinctNames (.array marks (some items) size) ↔ items.DistinctNames := by
  constructor
  · intro distinct _ _ _ below
    exact distinct _ _ _ (.items below)
  · intro distinct marks' properties required below
    cases below with
    | items below => exact distinct marks' properties required below

theorem distinctNames_object_iff {marks : Marks} {properties : List (String × Schema)}
    {required : List String} :
    DistinctNames (.object marks properties required) ↔
      (properties.map (·.1)).Nodup ∧
        ∀ name schema, (name, schema) ∈ properties → schema.DistinctNames := by
  constructor
  · intro distinct
    refine ⟨distinct _ _ _ (.root _), ?_⟩
    intro name schema declared _ _ _ below
    exact distinct _ _ _ (.property declared below)
  · rintro ⟨names, distinct⟩ marks' properties' required' below
    cases below with
    | root => exact names
    | property declared below => exact distinct _ _ declared _ _ _ below

end Api.Schema

namespace Mock

open Api (Marks Schema SizeBounds StringFacets ValueBounds)

/-- A string that is neither of a format with a form of its own nor of a pattern. -/
def IsPlain (facets : StringFacets) : Prop :=
  (∀ format, facets.format = some format → ∃ name, format = .other name) ∧ facets.pattern = none

/-- A node that is neither answered by an example nor cut off. -/
def Expanded (policy : Policy) (depth : Nat) (node : Schema) : Prop :=
  node.marks.example? = none ∧ depth ≤ policy.maxDepth

/-- The values that may stand for a node at a level below the root. -/
inductive Conforms (policy : Policy) : Nat → Schema → Json → Prop where
  | example {depth : Nat} {node : Schema} {value : Json}
      (given : node.marks.example? = some value) : Conforms policy depth node value
  | cutOff {depth : Nat} {node : Schema} (unmarked : node.marks.example? = none)
      (deep : policy.maxDepth < depth) :
      Conforms policy depth node
        (match node with
        | .object _ _ _ => .object []
        | .array _ _ _ => .array []
        | _ => .null)
  | allowed {depth : Nat} {node : Schema} {value : Json} (expanded : Expanded policy depth node)
      (scalar : node.isScalar = true) (listed : value ∈ node.marks.allowed) :
      Conforms policy depth node value
  | string {depth : Nat} {marks : Marks} {facets : StringFacets} {text : String}
      (expanded : Expanded policy depth (.string marks facets)) (anyAllowed : marks.allowed = [])
      (length : IsPlain facets →
        let bounds := Policy.effectiveBounds facets.size.least facets.size.greatest
          policy.minLength policy.maxLength
        bounds.1 ≤ text.length ∧ text.length ≤ bounds.2) :
      Conforms policy depth (.string marks facets) (.string text)
  | integer {depth : Nat} {marks : Marks} {bounds : ValueBounds} {value : Int}
      (expanded : Expanded policy depth (.integer marks bounds)) (anyAllowed : marks.allowed = [])
      (fits : leastInt ≤ value ∧ value ≤ greatestInt)
      (between : lowerInteger bounds ≤ upperInteger bounds →
        lowerInteger bounds ≤ value ∧ value ≤ upperInteger bounds) :
      Conforms policy depth (.integer marks bounds) (.int value)
  | number {depth : Nat} {marks : Marks} {bounds : ValueBounds} {value : Float}
      (expanded : Expanded policy depth (.number marks bounds)) (anyAllowed : marks.allowed = []) :
      Conforms policy depth (.number marks bounds) (.float value)
  | boolean {depth : Nat} {marks : Marks} {value : Bool}
      (expanded : Expanded policy depth (.boolean marks)) (anyAllowed : marks.allowed = []) :
      Conforms policy depth (.boolean marks) (.bool value)
  | bareArray {depth : Nat} {marks : Marks} {size : SizeBounds}
      (expanded : Expanded policy depth (.array marks none size)) :
      Conforms policy depth (.array marks none size) (.array [])
  | array {depth : Nat} {marks : Marks} {items : Schema} {size : SizeBounds} {values : List Json}
      (expanded : Expanded policy depth (.array marks (some items) size))
      (length :
        let bounds := Policy.effectiveBounds size.least size.greatest policy.minItems
          policy.maxItems
        bounds.1 ≤ values.length ∧ values.length ≤ bounds.2)
      (each : ∀ value ∈ values, Conforms policy (depth + 1) items value) :
      Conforms policy depth (.array marks (some items) size) (.array values)
  | object {depth : Nat} {marks : Marks} {properties : List (String × Schema)}
      {required : List String} {members : Members}
      (expanded : Expanded policy depth (.object marks properties required))
      (inOrder : (members.map (·.1)).Sublist (properties.map (·.1)))
      (present : ∀ name ∈ properties.map (·.1), name ∈ required → name ∈ members.map (·.1))
      (certain : (policy.inclusion == 1.0) = true → members.map (·.1) = properties.map (·.1))
      (never : (policy.inclusion == 0.0) = true → ∀ name ∈ members.map (·.1), name ∈ required)
      (each : ∀ name schema value, (name, schema) ∈ properties → (name, value) ∈ members →
        Conforms policy (depth + 1) schema value) :
      Conforms policy depth (.object marks properties required) (.object members)
  | unknown {depth : Nat} {marks : Marks} {keyword : String}
      (expanded : Expanded policy depth (.unknown marks keyword)) :
      Conforms policy depth (.unknown marks keyword) .null

/-- `Selected policy required fits properties members`: the members are those of some of the
properties, in order, each with a value that fits its schema. -/
inductive Selected (policy : Policy) (required : List String) (fits : Schema → Json → Prop) :
    List (String × Schema) → Members → Prop where
  | nil : Selected policy required fits [] []
  | take {name : String} {schema : Schema} {value : Json} {rest : List (String × Schema)}
      {members : Members} (possible : (policy.inclusion == 0.0) = true → name ∈ required)
      (fit : fits schema value) (others : Selected policy required fits rest members) :
      Selected policy required fits ((name, schema) :: rest) ((name, value) :: members)
  | skip {name : String} {schema : Schema} {rest : List (String × Schema)} {members : Members}
      (optional : name ∉ required) (chance : (policy.inclusion == 1.0) = false)
      (others : Selected policy required fits rest members) :
      Selected policy required fits ((name, schema) :: rest) members

namespace Selected

variable {policy : Policy} {required : List String} {fits : Schema → Json → Prop}
  {properties : List (String × Schema)} {members : Members}

theorem inOrder (selected : Selected policy required fits properties members) :
    (members.map (·.1)).Sublist (properties.map (·.1)) := by
  induction selected with
  | nil => exact .slnil
  | take possible fit others ih => exact ih.cons_cons _
  | skip optional chance others ih => exact ih.cons _

theorem present (selected : Selected policy required fits properties members) :
    ∀ name ∈ properties.map (·.1), name ∈ required → name ∈ members.map (·.1) := by
  induction selected with
  | nil => simp
  | take possible fit others ih =>
      intro name declared wanted
      rcases List.mem_cons.mp declared with rfl | later
      · exact List.mem_cons_self
      · exact List.mem_cons_of_mem _ (ih name later wanted)
  | skip optional chance others ih =>
      intro name declared wanted
      rcases List.mem_cons.mp declared with rfl | later
      · exact absurd wanted optional
      · exact ih name later wanted

theorem certain (selected : Selected policy required fits properties members)
    (always : (policy.inclusion == 1.0) = true) :
    members.map (·.1) = properties.map (·.1) := by
  induction selected with
  | nil => rfl
  | take possible fit others ih => simp [ih]
  | skip optional chance others ih => simp [always] at chance

theorem never (selected : Selected policy required fits properties members)
    (zero : (policy.inclusion == 0.0) = true) : ∀ name ∈ members.map (·.1), name ∈ required := by
  induction selected with
  | nil => simp
  | take possible fit others ih =>
      intro name chosen
      rcases List.mem_cons.mp chosen with rfl | later
      · exact possible zero
      · exact ih name later
  | skip optional chance others ih => exact ih

/-- With distinct names, a member's value can only be that of the property of its name. -/
theorem each (selected : Selected policy required fits properties members)
    (distinct : (properties.map (·.1)).Nodup) :
    ∀ name schema value, (name, schema) ∈ properties → (name, value) ∈ members →
      fits schema value := by
  induction selected with
  | nil => simp
  | take possible fit others ih =>
      rename_i first schema₀ value₀ rest members
      have first_fresh : first ∉ rest.map (·.1) := (List.nodup_cons.mp distinct).1
      have first_unset : first ∉ members.map (·.1) :=
        fun set => first_fresh (others.inOrder.subset set)
      intro name schema value declared chosen
      rcases List.mem_cons.mp declared with here | later
      · cases here
        rcases List.mem_cons.mp chosen with same | other
        · cases same
          exact fit
        · exact absurd (List.mem_map_of_mem other) first_unset
      · rcases List.mem_cons.mp chosen with same | other
        · cases same
          exact absurd (List.mem_map_of_mem later) first_fresh
        · exact ih (List.nodup_cons.mp distinct).2 name schema value later other
  | skip optional chance others ih =>
      rename_i first schema₀ rest members
      have first_unset : first ∉ members.map (·.1) :=
        fun set => (List.nodup_cons.mp distinct).1 (others.inOrder.subset set)
      intro name schema value declared chosen
      rcases List.mem_cons.mp declared with here | later
      · cases here
        exact absurd (List.mem_map_of_mem chosen) first_unset
      · exact ih (List.nodup_cons.mp distinct).2 name schema value later chosen

end Selected

theorem toInt64_mem (rounding : Binary64 → Int) (x : Float) :
    leastInt ≤ toInt64 rounding x ∧ toInt64 rounding x ≤ greatestInt := by
  simp only [toInt64]
  split
  · simp only [saturate, leastInt, greatestInt]
    omega
  · split
    · decide
    · split <;> decide

theorem lowerInteger_mem (bounds : ValueBounds) :
    leastInt ≤ lowerInteger bounds ∧ lowerInteger bounds ≤ greatestInt := by
  simp only [lowerInteger]
  cases realBound bounds.minimum with
  | none => decide
  | some x => exact toInt64_mem _ x

theorem upperInteger_mem (bounds : ValueBounds) :
    leastInt ≤ upperInteger bounds ∧ upperInteger bounds ≤ greatestInt := by
  simp only [upperInteger]
  cases realBound bounds.maximum with
  | none => decide
  | some x => exact toInt64_mem _ x

section Drawing

variable {σ : Type} [WordSource σ]

/-- An integer fits 64 bits, and the bounds whenever an integer lies between them. -/
theorem yields_integer (bounds : ValueBounds) :
    (integer bounds : Draw σ Int).Yields fun value =>
      (leastInt ≤ value ∧ value ≤ greatestInt) ∧
        (lowerInteger bounds ≤ upperInteger bounds →
          lowerInteger bounds ≤ value ∧ value ≤ upperInteger bounds) := by
  have lower := lowerInteger_mem bounds
  have upper := upperInteger_mem bounds
  simp only [integer]
  split
  · refine Draw.yields_pure ⟨?_, fun ordered => by omega⟩
    cases bounds.minimum with
    | none => exact lower
    | some x => exact toInt64_mem _ x
  · rename_i ordered
    have ordered : lowerInteger bounds ≤ upperInteger bounds := by omega
    refine (Draw.yields_intBetween ordered lower.1 ?_).imp fun value between => ?_
    · simp only [greatestInt] at upper
      omega
    · exact ⟨by omega, fun _ => between⟩

namespace Maker

variable {maker : Maker} {policy : Policy} {depth : Nat} {node : Schema}

omit [WordSource σ] in
theorem yields_guarded {draw : Draw σ Json}
    (drawn : Expanded policy depth node → draw.Yields (Conforms policy depth node)) :
    (guarded policy depth node draw).Yields (Conforms policy depth node) := by
  simp only [guarded]
  split
  · rename_i value given
    exact Draw.yields_pure (.example given)
  · rename_i unmarked
    split
    · rename_i deep
      apply Draw.yields_pure
      have cut := Conforms.cutOff unmarked deep
      cases node <;> exact cut
    · rename_i shallow
      exact drawn ⟨unmarked, by omega⟩

theorem yields_allowedOr {other : Draw σ Json} (expanded : Expanded policy depth node)
    (scalar : node.isScalar = true)
    (free : node.marks.allowed = [] → other.Yields (Conforms policy depth node)) :
    (allowedOr node.marks other).Yields (Conforms policy depth node) := by
  simp only [allowedOr]
  by_cases empty : node.marks.allowed = []
  · rw [empty]
    exact free empty
  · refine (Draw.yields_choose? empty).bind fun chosen found => ?_
    rcases found with ⟨value, listed, rfl⟩
    exact Draw.yields_pure (.allowed expanded scalar listed)

/-- Filler text has a length within the bounds in force. -/
theorem yields_filler (maker : Maker) (size : SizeBounds) :
    (maker.filler size : Draw σ String).Yields fun text =>
      let bounds := Policy.effectiveBounds size.least size.greatest maker.policy.minLength
        maker.policy.maxLength
      bounds.1 ≤ text.length ∧ text.length ≤ bounds.2 := by
  have ordered := Policy.effectiveBounds_le size.least size.greatest maker.policy.minLength
    maker.policy.maxLength
  refine (yields_text maker.vocabulary _ _).imp fun text length => ⟨length.1, ?_⟩
  exact Nat.le_trans length.2 (Nat.le_of_eq (Nat.max_eq_left ordered))

theorem formatted?_of_isPlain {facets : StringFacets} (plain : IsPlain facets) :
    (maker.formatted? facets : Draw σ (Option String)) = pure none := by
  simp only [formatted?]
  split
  · rfl
  · rename_i format declared
    rcases plain.1 format declared with ⟨name, rfl⟩
    rfl

theorem string_of_isPlain {facets : StringFacets} (plain : IsPlain facets) :
    (maker.string facets : Draw σ String) = maker.filler facets.size := by
  have matching : (matching? facets : Draw σ (Option String)) = pure none := by
    simp only [matching?, plain.2]
  simp only [string, formatted?_of_isPlain plain, matching, pure_bind]

theorem yields_itemsWithin {size : SizeBounds} {item : Draw σ Json} {p : Json → Prop}
    (each : item.Yields p) :
    (itemsWithin policy size item).Yields fun value => ∃ values, value = .array values ∧
      (let bounds := Policy.effectiveBounds size.least size.greatest policy.minItems
        policy.maxItems
      bounds.1 ≤ values.length ∧ values.length ≤ bounds.2) ∧ ∀ value ∈ values, p value := by
  have ordered := Policy.effectiveBounds_le size.least size.greatest policy.minItems
    policy.maxItems
  refine (Draw.yields_natBetween .bits64 ordered).bind fun length between => ?_
  refine (Draw.yields_times each length).map fun values facts => ⟨values, rfl, ?_, facts.2⟩
  rw [facts.1]
  exact between

theorem yields_included (policy : Policy) (required : List String) (name : String) :
    (included policy required name : Draw σ Bool).Yields fun taken =>
      if taken then (policy.inclusion == 0.0) = true → name ∈ required
      else name ∉ required ∧ (policy.inclusion == 1.0) = false := by
  simp only [included]
  split
  · rename_i wanted
    exact Draw.yields_pure fun _ => by simpa using wanted
  · rename_i optional
    have optional : name ∉ required := by simpa using optional
    by_cases certain : (policy.inclusion == 1.0) = true
    · rw [Draw.chance_of_beq_one certain]
      refine Draw.yields_pure fun never => ?_
      simp [Binary64.beq_one_of_beq_zero never] at certain
    · by_cases never : (policy.inclusion == 0.0) = true
      · refine (Draw.yields_chance_of_beq_zero never).imp fun taken taken_eq => ?_
        subst taken
        exact ⟨optional, by simpa using certain⟩
      · refine (Draw.yields_trivial _).imp fun taken _ => ?_
        cases taken with
        | true => exact fun zero => absurd zero never
        | false => exact ⟨optional, by simpa using certain⟩

/-- The members that are added are a selection of the properties, when none of them is there. -/
theorem yields_membersAt {required : List String} {properties : List (String × Schema)}
    {members : Members} {fits : Schema → Json → Prop}
    (values : ∀ name schema, (name, schema) ∈ properties →
      (maker.valueAt depth schema : Draw σ Json).Yields (fits schema))
    (fresh : (members.map (·.1) ++ properties.map (·.1)).Nodup) :
    (membersAt maker depth required properties members : Draw σ Members).Yields fun all =>
      ∃ added, all = members ++ added ∧ Selected maker.policy required fits properties added := by
  induction properties generalizing members with
  | nil =>
      rw [membersAt]
      exact Draw.yields_pure ⟨[], by simp, .nil⟩
  | cons property rest ih =>
      obtain ⟨name, schema⟩ := property
      have values_rest : ∀ name schema, (name, schema) ∈ rest →
          (maker.valueAt depth schema : Draw σ Json).Yields (fits schema) :=
        fun name schema declared => values name schema (List.mem_cons_of_mem _ declared)
      rw [membersAt]
      refine (yields_included maker.policy required name).bind fun taken reason => ?_
      cases taken with
      | true =>
          refine (values name schema List.mem_cons_self).bind fun value fit => ?_
          have unset : name ∉ members.map (·.1) := by
            intro set
            exact (List.nodup_append.mp fresh).2.2 name set name List.mem_cons_self rfl
          rw [Json.put_of_not_mem value unset]
          refine (ih values_rest (by simpa using fresh)).imp fun all facts => ?_
          rcases facts with ⟨added, rfl, others⟩
          exact ⟨(name, value) :: added, by simp, .take reason fit others⟩
      | false =>
          have fresh_rest : (members.map (·.1) ++ rest.map (·.1)).Nodup :=
            fresh.sublist ((List.sublist_cons_self _ _).append_left _)
          refine (ih values_rest fresh_rest).imp fun all facts => ?_
          rcases facts with ⟨added, rfl, others⟩
          exact ⟨added, rfl, .skip reason.1 reason.2 others⟩

mutual

/-- A value drawn for a node at a level conforms to it there. -/
theorem yields_valueAt (maker : Maker) (depth : Nat) : (schema : Schema) → schema.DistinctNames →
    (maker.valueAt depth schema : Draw σ Json).Yields (Conforms maker.policy depth schema)
  | .string marks facets, _ => by
    rw [valueAt]
    refine yields_guarded fun expanded => yields_allowedOr expanded rfl fun anyAllowed => ?_
    by_cases plain : IsPlain facets
    · rw [string_of_isPlain plain]
      refine (maker.yields_filler facets.size).map fun text length => ?_
      exact .string expanded anyAllowed fun _ => length
    · refine (Draw.yields_trivial _).map fun text _ => ?_
      exact .string expanded anyAllowed fun holds => absurd holds plain
  | .integer marks bounds, _ => by
    rw [valueAt]
    refine yields_guarded fun expanded => yields_allowedOr expanded rfl fun anyAllowed => ?_
    refine (yields_integer bounds).map fun value facts => ?_
    exact .integer expanded anyAllowed facts.1 facts.2
  | .number marks bounds, _ => by
    rw [valueAt]
    refine yields_guarded fun expanded => yields_allowedOr expanded rfl fun anyAllowed => ?_
    exact (Draw.yields_trivial _).map fun value _ => .number expanded anyAllowed
  | .boolean marks, _ => by
    rw [valueAt]
    refine yields_guarded fun expanded => yields_allowedOr expanded rfl fun anyAllowed => ?_
    exact (Draw.yields_trivial _).map fun value _ => .boolean expanded anyAllowed
  | .array marks none size, _ => by
    rw [valueAt]
    exact yields_guarded fun expanded => Draw.yields_pure (.bareArray expanded)
  | .array marks (some items) size, distinct => by
    rw [valueAt]
    refine yields_guarded fun expanded => ?_
    have each := yields_valueAt maker (depth + 1) items
      (Api.Schema.distinctNames_array_iff.mp distinct)
    refine (yields_itemsWithin each).imp fun value facts => ?_
    rcases facts with ⟨values, rfl, length, conform⟩
    exact .array expanded length conform
  | .object marks properties required, distinct => by
    rw [valueAt]
    refine yields_guarded fun expanded => ?_
    rcases Api.Schema.distinctNames_object_iff.mp distinct with ⟨names, below⟩
    have each := yields_properties maker (depth + 1) properties below
    refine (yields_membersAt each (by simpa using names)).map fun members facts => ?_
    rcases facts with ⟨added, rfl, selected⟩
    exact .object expanded selected.inOrder selected.present selected.certain selected.never
      (selected.each names)
  | .unknown marks keyword, _ => by
    rw [valueAt]
    exact yields_guarded fun expanded => Draw.yields_pure (.unknown expanded)

theorem yields_properties (maker : Maker) (depth : Nat) :
    (properties : List (String × Schema)) →
    (∀ name schema, (name, schema) ∈ properties → schema.DistinctNames) →
    ∀ name schema, (name, schema) ∈ properties →
      (maker.valueAt depth schema : Draw σ Json).Yields (Conforms maker.policy depth schema)
  | [], _, _, _, declared => by simp at declared
  | (first, schema) :: rest, distinct, name, other, declared => by
    rcases List.mem_cons.mp declared with same | later
    · cases same
      exact yields_valueAt maker depth schema (distinct _ _ List.mem_cons_self)
    · exact yields_properties maker depth rest
        (fun name schema declared => distinct name schema (List.mem_cons_of_mem _ declared))
        name other later

end

/-- Every value a maker draws for a schema conforms to it, whatever the words of the source. -/
theorem value_conforms (maker : Maker) (schema : Schema) (distinct : schema.DistinctNames) :
    (maker.value schema : Draw σ Json).Yields (Conforms maker.policy 0 schema) :=
  yields_valueAt maker 0 schema distinct

/-- A pet with a name that must be there, and tags that need not be. -/
theorem value_conforms_pet :
    let name : Schema := .string {} {}
    let tags : Schema := .array {} (some (.string { allowed := [.string "calm"] } {})) {}
    let pet : Schema := .object {} [("name", name), ("tags", tags)] ["name"]
    pet.DistinctNames ∧
      (({} : Maker).value pet : Draw ScriptedWords Json).Yields (Conforms {} 0 pet) := by
  intro name tags pet
  have distinct : pet.DistinctNames := by
    refine Api.Schema.distinctNames_object_iff.mpr ⟨by decide, ?_⟩
    intro property schema declared
    simp only [List.mem_cons, List.not_mem_nil, or_false, Prod.mk.injEq] at declared
    rcases declared with ⟨-, rfl⟩ | ⟨-, rfl⟩
    · exact Api.Schema.distinctNames_of_isScalar rfl
    · exact Api.Schema.distinctNames_array_iff.mpr (Api.Schema.distinctNames_of_isScalar rfl)
  exact ⟨distinct, value_conforms {} pet distinct⟩

end Maker

end Drawing

end Mock

end ApiStub
