import ApiStub.Proofs.Conformance
import ApiStub.Proofs.ExpansionBounds

/-!
# Distinct names

Where no object of a document has a name twice, no object schema that is read from the document
declares a property twice: the declared properties are taken over as they are, and a merge sets the
properties of its branches one by one, which adds no name that is there already. The invariant is
followed through the visits of an expansion, whatever was spent before them.
-/

namespace ApiStub

namespace Json

section Put

variable {α : Type} {name : String} {value : α} {members : List (String × α)}

theorem mem_of_mem_put {entry : String × α} (mem : entry ∈ put name value members) :
    entry = (name, value) ∨ entry ∈ members := by
  induction members with
  | nil => exact .inl (List.mem_singleton.mp mem)
  | cons first rest ih =>
      unfold put at mem
      split at mem
      · exact (List.mem_cons.mp mem).imp_right (List.mem_cons_of_mem first)
      · rcases List.mem_cons.mp mem with same | later
        · exact .inr (List.mem_cons.mpr (.inl same))
        · exact (ih later).imp_right (List.mem_cons_of_mem first)

/-- A name that is there keeps its place, another one comes at the end. -/
theorem names_put (name : String) (value : α) (members : List (String × α)) :
    (put name value members).map (·.1) =
      if name ∈ members.map (·.1) then members.map (·.1) else members.map (·.1) ++ [name] := by
  split
  · rename_i set
    induction members with
    | nil => cases set
    | cons first rest ih =>
        by_cases same : first.1 = name
        · simp [put, same]
        · have later := (List.mem_cons.mp set).resolve_left (Ne.symm same)
          simp [put, same, ih later]
  · rename_i unset
    rw [put_of_not_mem value unset, List.map_append, List.map_cons, List.map_nil]

theorem mem_names_put_iff {other : String} :
    other ∈ (put name value members).map (·.1) ↔ other = name ∨ other ∈ members.map (·.1) := by
  rw [names_put]
  split
  · rename_i set
    exact ⟨.inr, fun either => either.elim (fun same => same ▸ set) id⟩
  · rw [List.mem_append, List.mem_singleton, or_comm]

theorem nodup_put (distinct : (members.map (·.1)).Nodup) :
    ((put name value members).map (·.1)).Nodup := by
  rw [names_put]
  split
  · exact distinct
  · rename_i unset
    refine List.nodup_append.mpr ⟨distinct, List.nodup_singleton name, ?_⟩
    intro other other_mem last last_mem same
    rw [same, List.mem_singleton.mp last_mem] at other_mem
    exact unset other_mem

end Put

/-- A name at the end counts only where it did not come before. -/
theorem eraseDups_append_singleton (names : List String) (name : String) :
    (names ++ [name]).eraseDups =
      if name ∈ names then names.eraseDups else names.eraseDups ++ [name] := by
  rw [List.eraseDups_append]
  split
  · rename_i before
    simp [List.removeAll, before]
  · rename_i fresh
    simp [List.removeAll, fresh, List.eraseDups_cons]

/-- No object in the document has a name twice. -/
def DistinctNames (document : Json) : Prop :=
  ∀ members, document.Holds (.object members) → (members.map (·.1)).Nodup

theorem DistinctNames.part {document part : Json} (distinct : document.DistinctNames)
    (held : document.Holds part) : part.DistinctNames :=
  fun members below => distinct members (held.trans below)

@[simp]
theorem distinctNames_object_iff {members : Members} :
    (object members).DistinctNames ↔
      (members.map (·.1)).Nodup ∧ ∀ entry ∈ members, entry.2.DistinctNames := by
  constructor
  · intro distinct
    exact ⟨distinct members (.whole _), fun entry mem => distinct.part (.member mem (.whole _))⟩
  · rintro ⟨names, below⟩ inner held
    cases held with
    | whole => exact names
    | member mem held => exact below _ mem inner held

@[simp]
theorem distinctNames_array_iff {items : List Json} :
    (array items).DistinctNames ↔ ∀ item ∈ items, item.DistinctNames := by
  constructor
  · exact fun distinct item mem => distinct.part (.item mem (.whole _))
  · rintro below inner (_ | ⟨mem, held⟩)
    exact below _ mem inner held

@[simp]
theorem distinctNames_string (text : String) : (string text).DistinctNames := nofun

@[simp]
theorem distinctNames_int (value : Int) : (int value).DistinctNames := nofun

end Json

namespace Api

/-- The properties of a shape have distinct names, and so has every object in their schemas. -/
def ObjectShape.DistinctNames (shape : ObjectShape) : Prop :=
  (shape.properties.map (·.1)).Nodup ∧
    ∀ name schema, (name, schema) ∈ shape.properties → schema.DistinctNames

theorem Schema.distinctNames_placeholder : placeholder.DistinctNames :=
  Schema.distinctNames_object_iff.mpr ⟨List.nodup_nil, nofun⟩

theorem Schema.distinctNames_unknown (marks : Marks) (keyword : String) :
    DistinctNames (.unknown marks keyword) := nofun

theorem Schema.DistinctNames.replaceExample {node : Schema} (distinct : node.DistinctNames)
    (example? : Option Json) : (node.replaceExample example?).DistinctNames := by
  cases example? with
  | none => exact distinct
  | some value =>
      intro marks properties required below
      cases node with
      | array marks items size =>
          cases below with
          | items below => exact distinct _ _ _ (.items below)
      | object marks properties required =>
          cases below with
          | root => exact distinct _ _ _ (.root _)
          | property declared below => exact distinct _ _ _ (.property declared below)
      | _ => cases below

namespace ObjectShape

variable {shape : ObjectShape}

theorem DistinctNames.toSchema (distinct : shape.DistinctNames) (marks : Marks) :
    (shape.toSchema marks).DistinctNames :=
  Schema.distinctNames_object_iff.mpr distinct

theorem DistinctNames.setProperty (distinct : shape.DistinctNames) {schema : Schema}
    (below : schema.DistinctNames) (name : String) :
    (shape.setProperty name schema).DistinctNames := by
  refine ⟨Json.nodup_put distinct.1, ?_⟩
  intro other declared mem
  rcases Json.mem_of_mem_put mem with same | kept
  · cases same
    exact below
  · exact distinct.2 other declared kept

theorem DistinctNames.merge (distinct : shape.DistinctNames)
    {properties : List (String × Schema)}
    (below : ∀ name schema, (name, schema) ∈ properties → schema.DistinctNames)
    (required : List String) : (shape.merge properties required).DistinctNames := by
  rw [DistinctNames, ObjectShape.merge, properties_foldl_require]
  induction properties generalizing shape with
  | nil => exact distinct
  | cons property rest ih =>
      rw [List.foldl_cons]
      refine ih (distinct.setProperty (below _ _ List.mem_cons_self) _) ?_
      exact fun name schema mem => below name schema (List.mem_cons_of_mem _ mem)

end ObjectShape

/-- What a merge has taken in has distinct names. -/
structure Merge.DistinctNames (state : Merge) : Prop where
  shape : state.shape.DistinctNames
  firstOther : ∀ other ∈ state.firstOther, other.DistinctNames

namespace Merge

variable {state : Merge}

theorem DistinctNames.add (distinct : state.DistinctNames) {schema : Schema}
    (below : schema.DistinctNames) : (state.add schema).DistinctNames := by
  have other : ∀ other ∈ state.firstOther.or (some schema), other.DistinctNames := by
    cases first : state.firstOther with
    | none => simpa using below
    | some earlier => simpa using distinct.firstOther earlier first
  cases schema with
  | object marks properties required =>
      have inner := Schema.distinctNames_object_iff.mp below
      exact ⟨distinct.shape.merge inner.2 required, distinct.firstOther⟩
  | _ => exact ⟨distinct.shape, other⟩

theorem DistinctNames.foldl_add (distinct : state.DistinctNames) {schemas : List Schema}
    (below : ∀ schema ∈ schemas, schema.DistinctNames) :
    (schemas.foldl Merge.add state).DistinctNames := by
  induction schemas generalizing state with
  | nil => exact distinct
  | cons schema rest ih =>
      rcases List.forall_mem_cons.mp below with ⟨first, others⟩
      exact ih (distinct.add first) others

theorem DistinctNames.result (distinct : state.DistinctNames) : state.result.DistinctNames := by
  simp only [Merge.result]
  split
  · exact distinct.firstOther _ ‹_›
  · exact distinct.shape.toSchema _

end Merge

section Visits

variable {visit : Json → Nat → Expansion Schema} {members : Members} {allowance : Nat}

/-- What holds of every visit holds of all the schemas that several visits give. -/
theorem yields_visitAll {p : Schema → Prop} {places : List Json}
    (each : ∀ place ∈ places, Draw.Yields (visit place allowance) p) :
    Draw.Yields (visitAll visit allowance places) fun schemas =>
      schemas.length = places.length ∧ ∀ schema ∈ schemas, p schema := by
  induction places with
  | nil => exact Draw.yields_pure ⟨rfl, nofun⟩
  | cons place rest ih =>
      rcases List.forall_mem_cons.mp each with ⟨first, others⟩
      refine Draw.Yields.bind first fun schema holds => ?_
      refine Draw.Yields.bind (ih others) fun schemas facts => ?_
      refine Draw.yields_pure ⟨congrArg (· + 1) facts.1, ?_⟩
      exact List.forall_mem_cons.mpr ⟨holds, facts.2⟩

variable (distinct : (Json.object members).DistinctNames)

include distinct

theorem distinctNames_shapeOf {schemas : List Schema}
    (length : schemas.length = (propertyPlaces members).length)
    (below : ∀ schema ∈ schemas, schema.DistinctNames) :
    (shapeOf members schemas).DistinctNames := by
  rw [propertyPlaces, List.length_map] at length
  constructor
  · rw [shapeOf, List.map_fst_zip (by rw [List.length_map, length])]
    cases found : (Json.find? members "properties").bind Json.members? with
    | none => exact List.nodup_nil
    | some declared =>
        rcases Option.bind_eq_some_iff.mp found with ⟨value, under, isObject⟩
        cases value with
        | object inner =>
            cases isObject
            exact distinct _ (Json.holds_of_find? under)
        | _ => cases isObject
  · intro name schema mem
    exact below schema (List.of_mem_zip mem).2

theorem yields_expandShape
    (each : ∀ place ∈ propertyPlaces members,
      Draw.Yields (visit place allowance) Schema.DistinctNames) :
    Draw.Yields (expandShape visit members allowance) ObjectShape.DistinctNames := by
  rw [expandShape_eq]
  exact (yields_visitAll each).map fun schemas facts =>
    distinctNames_shapeOf distinct facts.1 facts.2

omit distinct in
theorem yields_array (marks : Marks) (size : SizeBounds)
    (each : ∀ place ∈ itemPlaces members,
      Draw.Yields (visit place allowance) Schema.DistinctNames) :
    Draw.Yields (do
      let items ← expandItems visit members allowance
      pure (.array marks items size)) Schema.DistinctNames := by
  rw [expandItems_eq]
  refine Draw.Yields.bind (p := fun items => ∀ schema ∈ items, schema.DistinctNames) ?_ ?_
  · refine (yields_visitAll each).map fun schemas facts schema first => ?_
    exact facts.2 schema (List.mem_of_mem_head? first)
  · intro items below
    refine Draw.yields_pure ?_
    cases items with
    | none => nofun
    | some schema => exact Schema.distinctNames_array_iff.mpr (below schema rfl)

theorem yields_object (marks : Marks)
    (each : ∀ place ∈ propertyPlaces members,
      Draw.Yields (visit place allowance) Schema.DistinctNames) :
    Draw.Yields (do
      let shape ← expandShape visit members allowance
      pure (shape.toSchema marks)) Schema.DistinctNames :=
  Draw.Yields.bind (yields_expandShape distinct each) fun _ own =>
    Draw.yields_pure (own.toSchema marks)

theorem yields_expandTyped
    (each : ∀ place ∈ typedPlaces members,
      Draw.Yields (visit place allowance) Schema.DistinctNames) :
    Draw.Yields (expandTyped visit members allowance) Schema.DistinctNames := by
  simp only [expandTyped]
  simp only [typedPlaces] at each
  generalize declaredType? (.object members) = keyword at each ⊢
  split
  · exact Draw.yields_pure (Schema.distinctNames_of_isScalar rfl)
  · exact Draw.yields_pure (Schema.distinctNames_of_isScalar rfl)
  · exact Draw.yields_pure (Schema.distinctNames_of_isScalar rfl)
  · exact Draw.yields_pure (Schema.distinctNames_of_isScalar rfl)
  · exact yields_array _ _ each
  · exact yields_object distinct _ each
  · exact Draw.yields_pure (Schema.distinctNames_unknown _ _)
  · dsimp only at each ⊢
    split at each
    · rename_i hasItems
      rw [if_pos hasItems]
      exact yields_array _ _ each
    · rename_i noItems
      rw [if_neg noItems]
      exact yields_object distinct _ each

/-- The schema of an object has distinct names when those of the places below have. -/
theorem yields_expandMembers
    (each : ∀ place ∈ visited members,
      Draw.Yields (visit place allowance) Schema.DistinctNames) :
    Draw.Yields (expandMembers visit members allowance) Schema.DistinctNames := by
  simp only [visited] at each
  simp only [expandMembers]
  cases combined : branches? members "allOf" with
  | some branches =>
      simp only [combined, List.forall_mem_append] at each
      rcases each with ⟨own, others⟩
      refine Draw.Yields.bind (yields_expandShape distinct own) fun shape shape_distinct => ?_
      rw [expandBranches_eq]
      have start : Merge.DistinctNames { shape } := ⟨shape_distinct, nofun⟩
      have merged := (yields_visitAll others).map fun schemas facts => start.foldl_add facts.2
      exact merged.bind fun merge holds => Draw.yields_pure (holds.result.replaceExample _)
  | none =>
      cases chosen : alternative? members with
      | some branch =>
          simp only [combined, chosen, List.forall_mem_singleton] at each
          exact Draw.Yields.bind each fun schema below =>
            Draw.yields_pure (below.replaceExample _)
      | none =>
          simp only [combined, chosen] at each
          exact yields_expandTyped distinct each

end Visits

theorem distinctNames_of_follow? {root value target : Json} {allowance left : Nat}
    (document : root.DistinctNames) (distinct : value.DistinctNames)
    (followed : follow? root allowance value = some (target, left)) : target.DistinctNames := by
  have follows := Follows.follow?_eq_some_iff.mp followed
  clear followed
  induction follows with
  | stop _ => exact distinct
  | step _ resolved _ ih => exact ih (document.part (holds_of_resolve? resolved))

/-- A schema is read with distinct names wherever names are distinct in the document. -/
theorem yields_expandFrom {root value : Json} (document : root.DistinctNames)
    (distinct : value.DistinctNames) (fuel allowance : Nat) :
    Draw.Yields (expandFrom root fuel value allowance) Schema.DistinctNames := by
  induction fuel generalizing value allowance with
  | zero => exact fun _ => Schema.distinctNames_placeholder
  | succ fuel ih =>
      -- What was spent decides only if the visit goes on; the names are distinct in both cases.
      intro used
      change (expandFrom root (fuel + 1) value allowance used).1.DistinctNames
      rcases shut_or_open root value allowance used with shut | ⟨within, members, rest, followed⟩
      · rw [expandFrom_of_shut _ shut]
        exact Schema.distinctNames_placeholder
      · have target := distinctNames_of_follow? document distinct followed
        rw [expandFrom_succ, visitOnce_of_open within followed]
        refine yields_expandMembers target (fun place mem => ?_) (used + 1)
        exact ih (target.part (holds_of_visited mem)) rest

theorem distinctNames_expand {root value : Json} (document : root.DistinctNames)
    (distinct : value.DistinctNames) (allowance : Nat) :
    (expand root value allowance).DistinctNames :=
  yields_expandFrom document distinct nodeBudget allowance 0

/-- The response schemas of a description have distinct names, as drawing a value asks for. -/
theorem distinctNames_of_mem_schemas {document : Json} {allowance : Nat} {schema : Schema}
    (distinct : document.DistinctNames)
    (mem : schema ∈ (Description.ofDocument document allowance).schemas) :
    schema.DistinctNames := by
  rcases expands_of_mem_schemas mem with ⟨value, left, held, _, rfl⟩
  exact distinctNames_expand distinct (distinct.part held) left

end Api

end ApiStub
