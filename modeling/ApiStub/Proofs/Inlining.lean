import ApiStub.Proofs.SchemaPlaces

/-!
# Expansion and inlining

A reference means its target: a schema expands like the schema in which every reference has been
replaced by what it refers to, the rest of the object that held it dropped. `inline` does the
replacing, as often as its reach says, so that a cycle beside the visited places does no harm.

`MeetsNoLimit` follows the places that an expansion visits and asks of each that its references lead
somewhere within the allowance. It says nothing of the budget of nodes, which cuts both expansions
in the same place: they visit alike, node by node, with one count. So the induction is on
`MeetsNoLimit`, and the equation it proves is one of stateful computations.
-/

namespace ApiStub.Api

mutual

/-- A value with the references in its places replaced by what `target?` has for them. -/
def substitute (target? : String → Option Json) : Json → Json
  | .object members =>
    match reference? (.object members) with
    | some reference => (target? reference).getD (.object members)
    | none => .object (substituteMembers target? members)
  | value => value

/-- Substitutes in the places of an object. -/
def substituteMembers (target? : String → Option Json) : Members → Members
  | [] => []
  | (keyword, value) :: rest =>
    (keyword,
      match keyword with
      | "properties" => substituteProperties target? value
      | "items" => substitute target? value
      | "allOf" => substituteBranches target? value
      | "oneOf" => substituteFirst target? value
      | "anyOf" => substituteFirst target? value
      | _ => value) :: substituteMembers target? rest

/-- Substitutes in the schemas of properties. -/
def substituteProperties (target? : String → Option Json) : Json → Json
  | .object declared => .object (substituteValues target? declared)
  | value => value

/-- Substitutes in the value of every member. -/
def substituteValues (target? : String → Option Json) : Members → Members
  | [] => []
  | (name, value) :: rest => (name, substitute target? value) :: substituteValues target? rest

/-- Substitutes in every branch. -/
def substituteBranches (target? : String → Option Json) : Json → Json
  | .array branches => .array (substituteItems target? branches)
  | value => value

/-- Substitutes in every item. -/
def substituteItems (target? : String → Option Json) : List Json → List Json
  | [] => []
  | item :: rest => substitute target? item :: substituteItems target? rest

/-- Substitutes in the first branch. -/
def substituteFirst (target? : String → Option Json) : Json → Json
  | .array (branch :: rest) => .array (substitute target? branch :: rest)
  | value => value

end

/-- A value with every reference in a place of a schema replaced by its target, inlined in turn.
What is left after as many replacements as the reach stays as it is, and so does a reference
without a target. -/
def inline (root : Json) : Nat → Json → Json
  | 0 => substitute fun _ => none
  | reach + 1 => substitute fun reference => (resolve? root reference).map (inline root reach)

theorem substituteValues_eq_map (target? : String → Option Json) (members : Members) :
    substituteValues target? members =
      members.map fun entry => (entry.1, substitute target? entry.2) := by
  induction members with
  | nil => rfl
  | cons entry rest ih => rw [substituteValues, ih, List.map_cons]

theorem substituteItems_eq_map (target? : String → Option Json) (items : List Json) :
    substituteItems target? items = items.map (substitute target?) := by
  induction items with
  | nil => rfl
  | cons item rest ih => rw [substituteItems, ih, List.map_cons]

theorem substituteProperties_eq_mapMembers (target? : String → Option Json) (value : Json) :
    substituteProperties target? value = value.mapMembers (substitute target?) := by
  cases value with
  | object declared =>
      simp only [substituteProperties, Json.mapMembers, substituteValues_eq_map]
  | _ => rfl

theorem substituteBranches_eq_mapItems (target? : String → Option Json) (value : Json) :
    substituteBranches target? value = value.mapItems (substitute target?) := by
  cases value with
  | array branches => simp only [substituteBranches, Json.mapItems, substituteItems_eq_map]
  | _ => rfl

theorem substituteFirst_eq_mapFirst (target? : String → Option Json) (value : Json) :
    substituteFirst target? value = value.mapFirst (substitute target?) := by
  cases value with
  | array branches => cases branches <;> rfl
  | _ => rfl

theorem substituteMembers_cons (target? : String → Option Json) (keyword : String) (value : Json)
    (rest : Members) :
    substituteMembers target? ((keyword, value) :: rest) =
      (keyword, mapUnder (substitute target?) keyword value) :: substituteMembers target? rest := by
  simp only [mapUnder]
  split
  · rw [substituteMembers, substituteProperties_eq_mapMembers]
  · rw [substituteMembers]
  · rw [substituteMembers, substituteBranches_eq_mapItems]
  · rw [substituteMembers, substituteFirst_eq_mapFirst]
  · rw [substituteMembers, substituteFirst_eq_mapFirst]
  · rw [substituteMembers] <;> assumption

theorem substituteMembers_eq_mapPlaces (target? : String → Option Json) (members : Members) :
    substituteMembers target? members = mapPlaces (substitute target?) members := by
  induction members with
  | nil => rfl
  | cons entry rest ih =>
      rw [substituteMembers_cons, ih]
      rfl

/-- An object that is no reference keeps everything but its places. -/
theorem substitute_object {target? : String → Option Json} {members : Members}
    (plain : reference? (.object members) = none) :
    substitute target? (.object members) = .object (mapPlaces (substitute target?) members) := by
  rw [substitute, plain, substituteMembers_eq_mapPlaces]

theorem substitute_reference {target? : String → Option Json} {value : Json} {reference : String}
    (refers : reference? value = some reference) :
    substitute target? value = (target? reference).getD value := by
  cases value with
  | object members => rw [substitute, refers]
  | _ => cases refers

theorem inline_object {root : Json} {reach : Nat} {members : Members}
    (plain : reference? (.object members) = none) :
    inline root reach (.object members) = .object (mapPlaces (inline root reach) members) := by
  cases reach with
  | zero => exact substitute_object plain
  | succ reach => exact substitute_object plain

theorem inline_of_not_object {root value : Json} {reach : Nat}
    (scalar : ∀ members, value ≠ .object members) : inline root reach value = value := by
  cases value with
  | object members => exact absurd rfl (scalar members)
  | _ => cases reach <;> rfl

/-- What is an object by inlining and no reference has been an object before. -/
theorem inline_eq_object {root value : Json} {reach : Nat} {members : Members}
    (plain : reference? value = none) (isObject : inline root reach value = .object members) :
    ∃ held, value = .object held ∧ members = mapPlaces (inline root reach) held := by
  cases value with
  | object held =>
      rw [inline_object plain] at isObject
      cases isObject
      exact ⟨held, rfl, rfl⟩
  | _ =>
      rw [inline_of_not_object (by simp)] at isObject
      cases isObject

theorem inline_reference {root value target : Json} {reach : Nat} {reference : String}
    (refers : reference? value = some reference)
    (resolved : resolve? root reference = some target) :
    inline root (reach + 1) value = inline root reach target := by
  rw [inline, substitute_reference refers, resolved]
  rfl

/-- What is inlined and is no reference before is none after. -/
theorem reference?_inline {root value : Json} (reach : Nat) (plain : reference? value = none) :
    reference? (inline root reach value) = none := by
  cases value with
  | object members => rw [inline_object plain, reference?_mapPlaces, plain]
  | _ => rw [inline_of_not_object (by simp), plain]

/-- A chain of references leads from a value to a target that is none; an allowance is left. -/
inductive Follows (root : Json) : Nat → Json → Json → Nat → Prop
  | stop {allowance : Nat} {value : Json} (plain : reference? value = none) :
      Follows root allowance value value allowance
  | step {allowance left : Nat} {value next target : Json} {reference : String}
      (refers : reference? value = some reference)
      (resolved : resolve? root reference = some next)
      (rest : Follows root allowance next target left) :
      Follows root (allowance + 1) value target left

namespace Follows

variable {root value target : Json} {allowance left : Nat}

theorem follow?_eq_some_iff :
    follow? root allowance value = some (target, left) ↔
      Follows root allowance value target left := by
  constructor
  · intro followed
    induction allowance generalizing value with
    | zero =>
        unfold follow? at followed
        split at followed
        · rename_i plain
          cases followed
          exact .stop plain
        · cases followed
    | succ allowance ih =>
        unfold follow? at followed
        split at followed
        · rename_i plain
          cases followed
          exact .stop plain
        · rename_i reference refers
          rcases Option.bind_eq_some_iff.mp followed with ⟨next, resolved, rest⟩
          exact .step refers resolved (ih rest)
  · intro follows
    induction follows with
    | stop plain => exact follow?_of_not_reference _ plain
    | step refers resolved _ ih =>
        rw [follow?, refers]
        exact Option.bind_eq_some_iff.mpr ⟨_, resolved, ih⟩

theorem plain (follows : Follows root allowance value target left) : reference? target = none :=
  (reference?_of_follow? (follow?_eq_some_iff.mpr follows)).1

/-- With a greater allowance as much more is left. -/
theorem add (spare : Nat) (follows : Follows root allowance value target left) :
    Follows root (allowance + spare) value target (left + spare) := by
  induction follows with
  | stop plain => exact .stop plain
  | step refers resolved _ ih =>
      rw [Nat.add_right_comm]
      exact .step refers resolved ih

/-- Inlining replaces the value by its target. -/
theorem inline_eq (spare : Nat) (follows : Follows root allowance value target left) :
    inline root (allowance + spare) value = inline root (left + spare) target := by
  induction follows with
  | stop plain => rfl
  | step refers resolved _ ih =>
      rw [Nat.add_right_comm, inline_reference refers resolved]
      exact ih

end Follows

/-- Expanding the value with this allowance, no reference fails to lead to a part of the document
within the allowance of its branch. -/
inductive MeetsNoLimit (root : Json) : Nat → Json → Prop
  | visit {allowance left : Nat} {value target : Json}
      (followed : follow? root allowance value = some (target, left))
      (below : ∀ members, target = .object members →
        ∀ child ∈ visited members, MeetsNoLimit root left child) :
      MeetsNoLimit root allowance value

namespace MeetsNoLimit

theorem add {root value : Json} {allowance : Nat} (spare : Nat)
    (unlimited : MeetsNoLimit root allowance value) :
    MeetsNoLimit root (allowance + spare) value := by
  induction unlimited with
  | visit followed _ ih =>
      have follows := Follows.follow?_eq_some_iff.mp followed
      exact .visit (Follows.follow?_eq_some_iff.mpr (follows.add spare)) ih

/-- An inlined schema has no reference left in a visited place, so it needs no allowance. -/
theorem inline {root value : Json} {allowance : Nat} (unlimited : MeetsNoLimit root allowance value)
    (other : Json) (spare : Nat) :
    MeetsNoLimit other 0 (Api.inline root (allowance + spare) value) := by
  induction unlimited with
  | @visit allowance left value target followed _ ih =>
      have follows := Follows.follow?_eq_some_iff.mp followed
      rw [follows.inline_eq spare]
      refine .visit (follow?_of_not_reference 0 (reference?_inline _ follows.plain)) ?_
      intro members isObject child child_mem
      rcases inline_eq_object follows.plain isObject with ⟨held, rfl, rfl⟩
      rw [visited_mapPlaces] at child_mem
      rcases List.mem_map.mp child_mem with ⟨origin, origin_mem, rfl⟩
      exact ih held rfl origin origin_mem

/-- A schema expands like what it becomes by inlining, whatever the document and the allowance
there. -/
theorem expandFrom_eq {root value : Json} {allowance : Nat}
    (unlimited : MeetsNoLimit root allowance value) (other : Json) (spare rest fuel : Nat) :
    expandFrom root fuel value allowance =
      expandFrom other fuel (Api.inline root (allowance + spare) value) rest := by
  induction unlimited generalizing fuel with
  | @visit allowance left value target followed _ ih =>
      cases fuel with
      | zero => rfl
      | succ fuel =>
          have follows := Follows.follow?_eq_some_iff.mp followed
          rw [follows.inline_eq spare, expandFrom, expandFrom, followed,
            follow?_of_not_reference rest (reference?_inline _ follows.plain)]
          apply bind_congr
          intro used
          split
          · rfl
          · cases target with
            | object members =>
                rw [inline_object follows.plain]
                apply expandMembers_mapPlaces
                intro child child_mem
                exact ih members rfl child child_mem fuel
            | _ => rw [inline_of_not_object (by simp)]

/-- Allowances that are enough expand alike. -/
theorem expandFrom_unique {root value : Json} {first second : Nat}
    (firstUnlimited : MeetsNoLimit root first value)
    (secondUnlimited : MeetsNoLimit root second value) (fuel : Nat) :
    expandFrom root fuel value first = expandFrom root fuel value second := by
  rw [firstUnlimited.expandFrom_eq root second 0 fuel, Nat.add_comm]
  exact (secondUnlimited.expandFrom_eq root first 0 fuel).symm

end MeetsNoLimit

/-- A schema that meets no limit means the schema with its references inlined: the two expand alike
and count the same nodes, the second one in whatever document and with whatever allowance, for
nothing in it is left to follow. More allowance, or what another depth leaves, changes nothing. -/
theorem expand_eq_expand_inline {root value : Json} {depth maxDepth : Nat}
    (unlimited : MeetsNoLimit root (maxDepth - depth) value) :
    expand root value (maxDepth - depth) =
        expand root (inline root (maxDepth - depth) value) maxDepth ∧
      (∀ reach, maxDepth - depth ≤ reach → ∀ other,
        MeetsNoLimit other 0 (inline root reach value) ∧
        ∀ allowance fuel, expandFrom root fuel value (maxDepth - depth) =
          expandFrom other fuel (inline root reach value) allowance) ∧
      (∀ larger, maxDepth ≤ larger → ∀ fuel,
        expandFrom root fuel value (larger - depth) =
          expandFrom root fuel value (maxDepth - depth)) ∧
      ∀ start, MeetsNoLimit root (maxDepth - start) value → ∀ fuel,
        expandFrom root fuel value (maxDepth - start) =
          expandFrom root fuel value (maxDepth - depth) := by
  refine ⟨?_, ?_, ?_, ?_⟩
  · exact congrArg (fun run => (run 0).1) (unlimited.expandFrom_eq root 0 maxDepth nodeBudget)
  · intro reach within other
    rcases Nat.exists_eq_add_of_le within with ⟨spare, rfl⟩
    exact ⟨unlimited.inline other spare, fun allowance fuel =>
      unlimited.expandFrom_eq other spare allowance fuel⟩
  · intro larger within fuel
    rcases Nat.exists_eq_add_of_le (Nat.sub_le_sub_right within depth) with ⟨spare, equal⟩
    rw [equal]
    exact (unlimited.add spare).expandFrom_unique unlimited fuel
  · intro start alsoUnlimited fuel
    exact alsoUnlimited.expandFrom_unique unlimited fuel

/-- A chain of references whose end has a reference below it. -/
def nestedDocument : Json :=
  .object [
    ("Alias", .object [("$ref", .string "#/Pet"), ("description", .string "dropped")]),
    ("Pet", .object [("properties", .object [("id", .object [("$ref", .string "#/Id")])])]),
    ("Id", .object [("type", .string "integer")])]

/-- A branch follows two references in a row and a third one below them. -/
theorem expand_eq_expand_inline_nested :
    MeetsNoLimit nestedDocument (5 - 2) (.object [("$ref", .string "#/Alias")]) ∧
      expand nestedDocument (.object [("$ref", .string "#/Alias")]) (5 - 2) =
        expand nestedDocument (.object
          [("properties", .object [("id", .object [("type", .string "integer")])])]) 5 := by
  have identifier : MeetsNoLimit nestedDocument 1 (.object [("$ref", .string "#/Id")]) := by
    have followed : follow? nestedDocument 1 (.object [("$ref", .string "#/Id")]) =
        some (.object [("type", .string "integer")], 0) := rfl
    refine .visit followed ?_
    intro members isObject child child_mem
    cases isObject
    cases child_mem
  have unlimited :
      MeetsNoLimit nestedDocument (5 - 2) (.object [("$ref", .string "#/Alias")]) := by
    have followed : follow? nestedDocument 3 (.object [("$ref", .string "#/Alias")]) =
        some (.object
          [("properties", .object [("id", .object [("$ref", .string "#/Id")])])], 1) := rfl
    refine .visit followed ?_
    intro members isObject child child_mem
    cases isObject
    rcases List.mem_singleton.mp child_mem with rfl
    exact identifier
  exact ⟨unlimited, (expand_eq_expand_inline unlimited).1⟩

end ApiStub.Api
