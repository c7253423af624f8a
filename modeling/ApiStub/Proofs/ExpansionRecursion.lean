import ApiStub.Proofs.SchemaCount
import ApiStub.Proofs.SchemaPlaces
import Mathlib

/-!
# The recursion of an expansion

The schema of an object is put together from what its places become, and the places are visited in
order. `visitOnce` is one step of the recursion: it spends a node, and it asks for the places below
with the same number of nodes spent or more. `expandFrom` runs these steps on fuel. Since a visit
that finds the budget spent asks for nothing, the fuel never decides: the recursion has exactly one
solution, and that is `expandFrom` with fuel for the whole budget.
-/

namespace ApiStub.Api

open Schema

/-- Expands the schemas in some places, in order. -/
def visitAll (visit : Json → Nat → Expansion Schema) (allowance : Nat) :
    List Json → Expansion (List Schema)
  | [] => pure []
  | place :: rest => do
    let schema ← visit place allowance
    let others ← visitAll visit allowance rest
    pure (schema :: others)

section Visits

variable (visit : Json → Nat → Expansion Schema) (allowance : Nat)

theorem visitAll_append (first second : List Json) :
    visitAll visit allowance (first ++ second) =
      (do
        let schemas ← visitAll visit allowance first
        let others ← visitAll visit allowance second
        pure (schemas ++ others)) := by
  induction first with
  | nil => simp [visitAll]
  | cons place rest ih => simp [visitAll, ih]

theorem length_visitAll (places : List Json) (used : Nat) :
    (visitAll visit allowance places used).1.length = places.length := by
  induction places generalizing used with
  | nil => rfl
  | cons place rest ih => exact congrArg (· + 1) (ih (visit place allowance used).2)

theorem expandProperties_eq (declared : Members) :
    expandProperties visit allowance declared =
      (fun schemas => (declared.map (·.1)).zip schemas) <$>
        visitAll visit allowance (declared.map (·.2)) := by
  induction declared with
  | nil => simp [expandProperties, visitAll]
  | cons entry rest ih => simp [expandProperties, visitAll, ih]

theorem expandBranches_eq (branches : List Json) (state : Merge) :
    expandBranches visit allowance branches state =
      (fun schemas => schemas.foldl Merge.add state) <$> visitAll visit allowance branches := by
  induction branches generalizing state with
  | nil => simp [expandBranches, visitAll]
  | cons branch rest ih => simp [expandBranches, visitAll, ih]

theorem expandItems_eq (members : Members) :
    expandItems visit members allowance =
      List.head? <$> visitAll visit allowance (itemPlaces members) := by
  simp only [expandItems, itemPlaces]
  cases Json.find? members "items" <;> simp [visitAll]

end Visits

/-- The shape of an object from the schemas of its declared properties. -/
def shapeOf (members : Members) (schemas : List Schema) : ObjectShape where
  properties :=
    ((((Json.find? members "properties").bind Json.members?).getD []).map (·.1)).zip schemas
  required :=
    (((Json.find? members "required").bind Json.items?).getD []).filterMap Json.string?

theorem countProperties_shapeOf_le (p : Schema → Bool) (members : Members)
    (schemas : List Schema) :
    countProperties p (shapeOf members schemas).properties ≤ countAll p schemas :=
  countProperties_zip_le p _ schemas

theorem expandShape_eq (visit : Json → Nat → Expansion Schema) (members : Members)
    (allowance : Nat) :
    expandShape visit members allowance =
      shapeOf members <$> visitAll visit allowance (propertyPlaces members) := by
  simp only [expandShape, expandProperties_eq, propertyPlaces, bind_pure_comp, Functor.map_map]
  rfl

/-- The properties of the object itself come first, then the branches, which are merged into it. -/
theorem expandMembers_of_branches (visit : Json → Nat → Expansion Schema) {members : Members}
    {branches : List Json} (combined : branches? members "allOf" = some branches)
    (allowance used : Nat) :
    expandMembers visit members allowance used =
      let own := visitAll visit allowance (propertyPlaces members) used
      let others := visitAll visit allowance branches own.2
      ((others.1.foldl Merge.add { shape := shapeOf members own.1 }).result.replaceExample
        (example? members), others.2) := by
  simp only [expandMembers, combined, expandShape_eq, expandBranches_eq]
  rfl

/-- A computation visits some places in order and puts together what they become; of the nodes it
puts together only the root is new. -/
def Assembles (compute : (Json → Nat → Expansion Schema) → Nat → Expansion Schema)
    (places : List Json) : Prop :=
  ∃ assemble : List Schema → Schema,
    (∀ visit allowance, compute visit allowance = assemble <$> visitAll visit allowance places) ∧
    ∀ p schemas, (assemble schemas).countBelow p ≤ countAll p schemas

theorem assembles_leaf {schema : Schema} (bare : ∀ p, schema.countBelow p = 0) :
    Assembles (fun _ _ => pure schema) [] := by
  refine ⟨fun _ => schema, ?_, ?_⟩
  · intro visit allowance
    simp [visitAll]
  · intro p schemas
    simp [bare]

theorem assembles_array (members : Members) (marks : Marks) (size : SizeBounds) :
    Assembles (fun visit allowance => do
      let items ← expandItems visit members allowance
      pure (.array marks items size)) (itemPlaces members) := by
  refine ⟨fun schemas => .array marks schemas.head? size, ?_, ?_⟩
  · intro visit allowance
    simp [expandItems_eq]
  · intro p schemas
    cases schemas <;> simp [countBelow, countItems]

theorem assembles_object (members : Members) (marks : Marks) :
    Assembles (fun visit allowance => do
      let shape ← expandShape visit members allowance
      pure (shape.toSchema marks)) (propertyPlaces members) := by
  refine ⟨fun schemas => (shapeOf members schemas).toSchema marks, ?_, ?_⟩
  · intro visit allowance
    simp [expandShape_eq]
  · intro p schemas
    exact countProperties_shapeOf_le p members schemas

theorem assembles_typed (members : Members) :
    Assembles (fun visit allowance => expandTyped visit members allowance)
      (typedPlaces members) := by
  simp only [expandTyped, typedPlaces]
  generalize declaredType? (.object members) = keyword
  split
  · exact assembles_leaf fun _ => rfl
  · exact assembles_leaf fun _ => rfl
  · exact assembles_leaf fun _ => rfl
  · exact assembles_leaf fun _ => rfl
  · exact assembles_array members _ _
  · exact assembles_object members _
  · rename_i other _ _ _ _ notArray notObject
    split
    · rename_i isArray
      exact absurd (Option.some.inj isArray) notArray
    · rename_i isObject
      exact absurd (Option.some.inj isObject) notObject
    · exact assembles_leaf fun _ => rfl
    · rename_i absent
      cases absent
  · dsimp only
    split
    · exact assembles_array members _ _
    · exact assembles_object members _

/-- The schema of an object is put together from what its visited places become, in order. -/
theorem assembles_members (members : Members) :
    Assembles (fun visit allowance => expandMembers visit members allowance) (visited members) := by
  simp only [expandMembers, visited]
  cases branches? members "allOf" with
  | some branches =>
      let declared := (propertyPlaces members).length
      refine ⟨fun schemas =>
        (((schemas.drop declared).foldl Merge.add
          { shape := shapeOf members (schemas.take declared) }).result).replaceExample
            (example? members), ?_, ?_⟩
      · intro visit allowance
        funext used
        have length := length_visitAll visit allowance (propertyPlaces members) used
        simp only [expandShape_eq, expandBranches_eq, visitAll_append, declared, ← length]
        change _ = (_, _)
        simp only [StateT.bind, StateT.map, bind, Functor.map, pure, StateT.pure,
          List.take_left, List.drop_left]
        rfl
      · intro p schemas
        rw [countBelow_replaceExample]
        have result_le := Merge.countBelow_result_le p ((schemas.drop declared).foldl Merge.add
          { shape := shapeOf members (schemas.take declared) })
        have merged_le := Merge.count_foldl_add_le p (schemas.drop declared)
          { shape := shapeOf members (schemas.take declared) }
        have shape_le := countProperties_shapeOf_le p members (schemas.take declared)
        have whole := countAll_append p (schemas.take declared) (schemas.drop declared)
        rw [List.take_append_drop] at whole
        rw [Merge.count_initial] at merged_le
        omega
  | none =>
      cases alternative? members with
      | some branch =>
          refine ⟨fun schemas => (schemas.headD .placeholder).replaceExample (example? members),
            ?_, ?_⟩
          · intro visit allowance
            simp [visitAll]
          · intro p schemas
            rw [countBelow_replaceExample]
            cases schemas with
            | nil => exact Nat.le_refl 0
            | cons schema rest =>
                have := countBelow_le_count p schema
                rw [countAll_cons, List.headD_cons]
                omega
      | none => exact assembles_typed members

theorem exists_assembly (members : Members) :
    ∃ assemble : List Schema → Schema,
      (∀ visit allowance, expandMembers visit members allowance =
        assemble <$> visitAll visit allowance (visited members)) ∧
      ∀ p schemas, (assemble schemas).countBelow p ≤ countAll p schemas :=
  assembles_members members

/-- One visit of an expansion, with the visits below it left to `visit`. -/
def visitOnce (root : Json) (visit : Json → Nat → Expansion Schema) (value : Json)
    (allowance : Nat) : Expansion Schema := do
  let used ← modifyGet fun used => (used, used + 1)
  if nodeBudget ≤ used then pure .placeholder
  else
    match follow? root allowance value with
    | some (.object members, allowance) => expandMembers visit members allowance
    | _ => pure .placeholder

section Recursion

variable {root value : Json} {visit other : Json → Nat → Expansion Schema} {allowance used : Nat}

theorem expandFrom_succ (root value : Json) (fuel allowance : Nat) :
    expandFrom root (fuel + 1) value allowance =
      visitOnce root (expandFrom root fuel) value allowance := rfl

/-- A visit that asks for nothing below: the budget is spent, or no object is found. -/
def Shut (root value : Json) (allowance used : Nat) : Prop :=
  nodeBudget ≤ used ∨ ∀ members rest, follow? root allowance value ≠ some (.object members, rest)

theorem shut_or_open (root value : Json) (allowance used : Nat) :
    Shut root value allowance used ∨ used < nodeBudget ∧
      ∃ members rest, follow? root allowance value = some (.object members, rest) := by
  by_cases opened : ∃ members rest, follow? root allowance value = some (.object members, rest)
  · rcases Nat.lt_or_ge used nodeBudget with within | spent
    · exact .inr ⟨within, opened⟩
    · exact .inl (.inl spent)
  · refine .inl (.inr ?_)
    intro members rest followed
    exact opened ⟨members, rest, followed⟩

theorem visitOnce_of_shut (shut : Shut root value allowance used) :
    visitOnce root visit value allowance used = (.placeholder, used + 1) := by
  change (if nodeBudget ≤ used then pure .placeholder else _ : Expansion Schema) (used + 1) = _
  rcases shut with spent | closed
  · rw [if_pos spent]
    rfl
  · cases followed : follow? root allowance value with
    | none => split <;> rfl
    | some found =>
        rcases found with ⟨target, rest⟩
        cases target with
        | object members => exact absurd followed (closed members rest)
        | _ => split <;> rfl

theorem visitOnce_of_open {members : Members} {rest : Nat} (within : used < nodeBudget)
    (followed : follow? root allowance value = some (.object members, rest)) :
    visitOnce root visit value allowance used = expandMembers visit members rest (used + 1) := by
  change (if nodeBudget ≤ used then pure .placeholder else _ : Expansion Schema) (used + 1) = _
  rw [if_neg (Nat.not_le.mpr within), followed]

theorem expandFrom_of_shut (fuel : Nat) (shut : Shut root value allowance used) :
    expandFrom root fuel value allowance used = (.placeholder, used + 1) := by
  cases fuel with
  | zero => rfl
  | succ fuel => exact visitOnce_of_shut shut

theorem visitAll_cons_apply (place : Json) (rest : List Json) :
    visitAll visit allowance (place :: rest) used =
      let first := visit place allowance used
      let others := visitAll visit allowance rest first.2
      (first.1 :: others.1, others.2) := rfl

/-- Visits that never give back what was spent do so one after another as well. -/
theorem le_visitAll (grows : ∀ place used, used ≤ (visit place allowance used).2)
    (places : List Json) (used : Nat) : used ≤ (visitAll visit allowance places used).2 := by
  induction places generalizing used with
  | nil => exact Nat.le_refl used
  | cons place rest ih => exact Nat.le_trans (grows place used) (ih _)

theorem visitAll_congr {places : List Json} {start : Nat}
    (grows : ∀ place used, used ≤ (other place allowance used).2)
    (agree : ∀ place ∈ places, ∀ used, start ≤ used →
      visit place allowance used = other place allowance used)
    (used : Nat) (started : start ≤ used) :
    visitAll visit allowance places used = visitAll other allowance places used := by
  induction places generalizing used with
  | nil => rfl
  | cons place rest ih =>
      rcases List.forall_mem_cons.mp agree with ⟨first, others⟩
      have later := Nat.le_trans started (grows place used)
      simp only [visitAll_cons_apply, first used started, ih others _ later]

theorem expandMembers_congr {members : Members} {start : Nat}
    (grows : ∀ place used, used ≤ (other place allowance used).2)
    (agree : ∀ place ∈ visited members, ∀ used, start ≤ used →
      visit place allowance used = other place allowance used) :
    expandMembers visit members allowance start = expandMembers other members allowance start := by
  rcases exists_assembly members with ⟨assemble, assembled, _⟩
  rw [assembled, assembled]
  exact congrArg (fun run => (assemble run.1, run.2))
    (visitAll_congr grows agree start (Nat.le_refl start))

/-- A visit spends a node at least. -/
theorem lt_expandFrom (root value : Json) (fuel allowance used : Nat) :
    used < (expandFrom root fuel value allowance used).2 := by
  induction fuel generalizing value allowance used with
  | zero => exact Nat.lt_succ_self used
  | succ fuel ih =>
      rcases shut_or_open root value allowance used with shut | ⟨within, members, rest, followed⟩
      · rw [expandFrom_of_shut _ shut]
        exact Nat.lt_succ_self used
      · rcases exists_assembly members with ⟨assemble, assembled, _⟩
        rw [expandFrom_succ, visitOnce_of_open within followed, assembled]
        exact le_visitAll (fun place used => Nat.le_of_lt (ih place rest used)) (visited members)
          (used + 1)

/-- One step asks for the places below only when more has been spent. -/
theorem visitOnce_congr
    (grows : ∀ place allowance used, used ≤ (other place allowance used).2)
    (agree : ∀ place allowance later, used < later →
      visit place allowance later = other place allowance later) :
    visitOnce root visit value allowance used = visitOnce root other value allowance used := by
  rcases shut_or_open root value allowance used with shut | ⟨within, members, rest, followed⟩
  · rw [visitOnce_of_shut shut, visitOnce_of_shut shut]
  · rw [visitOnce_of_open within followed, visitOnce_of_open within followed]
    exact expandMembers_congr (fun place => grows place rest) fun place _ => agree place rest

/-- Whatever solves the recursion is the run on fuel, as long as the fuel covers what is left of the
budget. -/
theorem solution_apply
    (solves : ∀ value allowance, visit value allowance = visitOnce root visit value allowance)
    {left fuel : Nat} (covers : left ≤ fuel) (rest : nodeBudget ≤ used + left) :
    visit value allowance used = expandFrom root fuel value allowance used := by
  induction left generalizing value allowance used fuel with
  | zero =>
      have shut : Shut root value allowance used := .inl rest
      rw [solves, visitOnce_of_shut shut, expandFrom_of_shut fuel shut]
  | succ left ih =>
      cases fuel with
      | zero => omega
      | succ fuel =>
          rw [solves, expandFrom_succ]
          apply visitOnce_congr
          · intro place allowance used
            exact Nat.le_of_lt (lt_expandFrom root place fuel allowance used)
          · intro place allowance later spentMore
            exact ih (by omega) (by omega)

/-- More fuel than the rest of the budget changes nothing. -/
theorem expandFrom_fuel {left first second : Nat} (firstCovers : left ≤ first)
    (secondCovers : left ≤ second) (rest : nodeBudget ≤ used + left) :
    expandFrom root first value allowance used = expandFrom root second value allowance used := by
  induction left generalizing value allowance used first second with
  | zero =>
      have shut : Shut root value allowance used := .inl rest
      rw [expandFrom_of_shut first shut, expandFrom_of_shut second shut]
  | succ left ih =>
      cases first with
      | zero => omega
      | succ first =>
          cases second with
          | zero => omega
          | succ second =>
              rw [expandFrom_succ, expandFrom_succ]
              apply visitOnce_congr
              · intro place allowance used
                exact Nat.le_of_lt (lt_expandFrom root place second allowance used)
              · intro place allowance later spentMore
                exact ih (by omega) (by omega) (by omega)

/-- The recursion of an expansion, taken without any fuel, has one solution and no other. -/
theorem solves_iff :
    (∀ value allowance, visit value allowance = visitOnce root visit value allowance) ↔
      visit = expandFrom root nodeBudget := by
  constructor
  · intro solves
    funext value allowance used
    exact solution_apply solves (Nat.le_refl nodeBudget) (Nat.le_add_left nodeBudget used)
  · rintro rfl value allowance
    funext used
    rw [← expandFrom_succ]
    exact expandFrom_fuel (Nat.le_refl nodeBudget) (Nat.le_succ nodeBudget)
      (Nat.le_add_left nodeBudget used)

end Recursion

end ApiStub.Api
