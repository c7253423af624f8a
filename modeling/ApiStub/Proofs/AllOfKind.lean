import ApiStub.Proofs.UnspentBudget

/-!
# The kind of merged branches

A branch of an `allOf` without a type expands to an object like one that declares it, and the merge
goes by what the branches have become. So the first type that is declared decides the kind of the
whole only when all the branches declare types of other kinds, and the whole is then what the first
branch is by itself. In all other cases the whole is an object, whichever type comes first.
-/

namespace ApiStub.Api

/-- The kinds of schemas, without what a schema says of its values. -/
inductive Kind where
  | string
  | integer
  | number
  | boolean
  | array
  | object
  | unknown (keyword : String)
  deriving DecidableEq, Repr

namespace Kind

/-- The kind that a type declares. -/
def ofType (type : String) : Kind :=
  match type with
  | "string" => string
  | "integer" => integer
  | "number" => number
  | "boolean" => boolean
  | "array" => array
  | "object" => object
  | other => unknown other

theorem ofType_eq_object_iff {type : String} : ofType type = object ↔ type = "object" := by
  constructor
  · intro same
    unfold ofType at same
    split at same
    · cases same
    · cases same
    · cases same
    · cases same
    · cases same
    · rfl
    · cases same
  · rintro rfl
    rfl

/-- The kind of a plain schema by the type it declares, if it declares one. -/
def ofDeclared : Option String → Kind
  | some type => ofType type
  | none => object

end Kind

namespace Schema

def kind : Schema → Kind
  | string _ _ => .string
  | integer _ _ => .integer
  | number _ _ => .number
  | boolean _ => .boolean
  | array _ _ _ => .array
  | object _ _ _ => .object
  | unknown _ keyword => .unknown keyword

@[simp]
theorem kind_withMarks (node : Schema) (marks : Marks) :
    (node.withMarks marks).kind = node.kind := by
  cases node <;> rfl

@[simp]
theorem kind_replaceExample (node : Schema) (example? : Option Json) :
    (node.replaceExample example?).kind = node.kind := by
  cases example? <;> simp [replaceExample]

end Schema

namespace Merge

theorem result_of_sawObject {state : Merge} (saw : state.sawObject = true) :
    state.result = state.shape.toSchema := by
  rw [result, saw]
  cases state.firstOther with
  | none => rfl
  | some other => rfl

theorem kind_result_of_sawObject {state : Merge} (saw : state.sawObject = true) :
    state.result.kind = .object := by
  rw [result_of_sawObject saw]
  rfl

theorem sawObject_foldl_add_iff (schemas : List Schema) (state : Merge) :
    (schemas.foldl add state).sawObject = true ↔
      state.sawObject = true ∨ .object ∈ schemas.map Schema.kind := by
  induction schemas generalizing state with
  | nil => simp
  | cons schema rest ih =>
      rw [List.foldl_cons, ih]
      cases schema <;> simp [add, Schema.kind]

theorem firstOther_foldl_add {schemas : List Schema} (others : .object ∉ schemas.map Schema.kind)
    (state : Merge) :
    (schemas.foldl add state).firstOther = state.firstOther.or schemas.head? := by
  induction schemas generalizing state with
  | nil => simp
  | cons schema rest ih =>
      rw [List.map_cons, List.mem_cons, not_or] at others
      have added : (state.add schema).firstOther = state.firstOther.or (some schema) := by
        cases schema with
        | object => exact absurd rfl others.1
        | _ => rfl
      rw [List.foldl_cons, ih others.2, added, Option.or_assoc]
      rfl

/-- Without an object among the branches, the first one stands for all. -/
theorem result_foldl_add_of_others {first : Schema} {rest : List Schema}
    (others : .object ∉ (first :: rest).map Schema.kind) (shape : ObjectShape) :
    ((first :: rest).foldl add { shape }).result = first := by
  have firstOther := firstOther_foldl_add others { shape }
  have sawObject := mt (sawObject_foldl_add_iff (first :: rest) { shape }).mp
    (by simpa using others)
  rw [result, firstOther, Bool.eq_false_of_not_eq_true sawObject]
  rfl

end Merge

section Branches

variable {root value branch : Json} {members : Members} {branches : List Json}
  {types : List (Option String)} {allowance left used : Nat}

/-- An object of the document that combines no schemas and has no items. -/
def Plain (members : Members) : Prop :=
  ∀ keyword ∈ ["allOf", "oneOf", "anyOf", "items"], Json.find? members keyword = none

theorem kind_expandMembers_of_plain (plain : Plain members)
    (visit : Json → Nat → Expansion Schema) (allowance used : Nat) :
    (expandMembers visit members allowance used).1.kind =
      .ofDeclared (declaredType? (.object members)) := by
  have allOf := plain "allOf" (by simp)
  have oneOf := plain "oneOf" (by simp)
  have anyOf := plain "anyOf" (by simp)
  have items := plain "items" (by simp)
  simp only [expandMembers, alternative?, branches?, allOf, oneOf, anyOf, expandTyped, items]
  generalize declaredType? (.object members) = type?
  simp only [Option.bind_none, Option.or_none]
  -- One case for every type that has a kind of its own, then the others, then none.
  split
  · rfl
  · rfl
  · rfl
  · rfl
  · rfl
  · rfl
  · simp only [Kind.ofDeclared, Kind.ofType]
    rfl
  · rfl

/-- A branch of an `allOf` that is a plain object behind its references, with the type that it
declares. -/
def PlainBranch (root : Json) (allowance : Nat) (branch : Json) (type? : Option String) : Prop :=
  ∃ members left, follow? root allowance branch = some (.object members, left) ∧ Plain members ∧
    declaredType? (.object members) = type?

theorem kind_of_plainBranch {type? : Option String}
    (plain : PlainBranch root allowance branch type?) (within : used < nodeBudget) :
    (expandFrom root nodeBudget branch allowance used).1.kind = .ofDeclared type? := by
  rcases plain with ⟨members, left, followed, plain, rfl⟩
  rw [expandFrom_nodeBudget, visitOnce_of_open within followed]
  exact kind_expandMembers_of_plain plain _ left (used + 1)

theorem kinds_of_plainBranches (plain : List.Forall₂ (PlainBranch root allowance) branches types)
    (within : (visitAll (expandFrom root nodeBudget) allowance branches used).2 ≤ nodeBudget) :
    (visitAll (expandFrom root nodeBudget) allowance branches used).1.map Schema.kind =
      types.map Kind.ofDeclared := by
  induction plain generalizing used with
  | nil => rfl
  | @cons branch type? branches types first _ ih =>
      have spent := lt_expandFrom root branch nodeBudget allowance used
      have later := le_visitAll (le_expandFrom root nodeBudget · allowance) branches
        (expandFrom root nodeBudget branch allowance used).2
      rw [visitAll_cons_apply] at within ⊢
      dsimp only at within ⊢
      rw [List.map_cons, List.map_cons, ih within, kind_of_plainBranch first (by omega)]

/-- All the branches declare types, and none the type of objects. -/
def OtherTypes (types : List (Option String)) : Prop :=
  ∀ type? ∈ types, ∃ type, type? = some type ∧ type ≠ "object"

theorem object_mem_kinds_iff (types : List (Option String)) :
    .object ∈ types.map Kind.ofDeclared ↔ ¬OtherTypes types := by
  simp only [OtherTypes, List.mem_map, not_forall]
  constructor
  · rintro ⟨type?, mem, isObject⟩
    refine ⟨type?, mem, ?_⟩
    rintro ⟨type, rfl, other⟩
    exact other (Kind.ofType_eq_object_iff.mp isObject)
  · rintro ⟨type?, mem, notOther⟩
    refine ⟨type?, mem, ?_⟩
    -- A branch without a type counts as an object like one that declares it.
    cases type? with
    | none => rfl
    | some type =>
        refine Kind.ofType_eq_object_iff.mpr (not_not.mp fun other => ?_)
        exact notOther ⟨type, rfl, other⟩

section Whole

variable (followed : follow? root allowance value = some (.object members, left))
  (combined : branches? members "allOf" = some branches)
  (plain : List.Forall₂ (PlainBranch root left) branches types)
  (within : (expandFrom root nodeBudget value allowance used).2 ≤ nodeBudget)

include followed combined plain within

/-- The branches are merged, and the kinds they are expanded to are those of their types. -/
theorem exists_merge_of_plainBranches : ∃ (shape : ObjectShape) (schemas : List Schema),
    (expandFrom root nodeBudget value allowance used).1 =
      (schemas.foldl Merge.add { shape }).result.replaceExample (example? members) ∧
    schemas.map Schema.kind = types.map Kind.ofDeclared ∧
    schemas.head? = branches.head?.map (expand root · left) := by
  have unspent := Nat.lt_of_lt_of_le (lt_expandFrom root value nodeBudget allowance used) within
  rw [expandFrom_nodeBudget, visitOnce_of_open unspent followed,
    expandMembers_of_branches _ combined] at within ⊢
  generalize visitAll (expandFrom root nodeBudget) left (propertyPlaces members) (used + 1) = own
    at within ⊢
  refine ⟨_, _, rfl, kinds_of_plainBranches plain within, ?_⟩
  cases branches with
  | nil => rfl
  | cons branch rest =>
      have grows := le_visitAll (le_expandFrom root nodeBudget · left) rest
        (expandFrom root nodeBudget branch left own.2).2
      exact congrArg some (expandFrom_eq_expand (Nat.le_trans grows within))

theorem kind_of_notOtherTypes (notOthers : ¬OtherTypes types) :
    (expandFrom root nodeBudget value allowance used).1.kind = .object := by
  rcases exists_merge_of_plainBranches followed combined plain within with
    ⟨shape, schemas, whole, kinds, _⟩
  rw [whole, Schema.kind_replaceExample]
  apply Merge.kind_result_of_sawObject
  rw [Merge.sawObject_foldl_add_iff, kinds]
  exact .inr ((object_mem_kinds_iff types).mpr notOthers)

theorem first_of_otherTypes {branch : Json} (first : branches.head? = some branch)
    (others : OtherTypes types) :
    (expandFrom root nodeBudget value allowance used).1 =
      (expand root branch left).replaceExample (example? members) := by
  rcases exists_merge_of_plainBranches followed combined plain within with
    ⟨shape, schemas, whole, kinds, head⟩
  have noObject := mt (object_mem_kinds_iff types).mp (not_not.mpr others)
  rw [first, Option.map_some] at head
  rcases List.head?_eq_some_iff.mp head with ⟨rest, rfl⟩
  rw [← kinds] at noObject
  rw [whole, Merge.result_foldl_add_of_others noObject]

end Whole

/-- The first type that is declared decides the kind exactly when it is the type of objects or all
the branches declare types of other kinds; otherwise an object stands for it. In the second case
the whole is what the first branch is by itself, but for an example beside the `allOf`. -/
theorem kind_of_allOf {type : String}
    (followed : follow? root allowance value = some (.object members, left))
    (combined : branches? members "allOf" = some branches)
    (plain : List.Forall₂ (PlainBranch root left) branches types)
    (declared : types.findSome? id = some type)
    (within : (expandFrom root nodeBudget value allowance used).2 ≤ nodeBudget) :
    ((expandFrom root nodeBudget value allowance used).1.kind = .ofType type ↔
      type = "object" ∨ OtherTypes types) ∧
    ((expandFrom root nodeBudget value allowance used).1.kind = .ofType type ∨
      (expandFrom root nodeBudget value allowance used).1.kind = .object) ∧
    (OtherTypes types → ∃ branch, branches.head? = some branch ∧
      (expandFrom root nodeBudget value allowance used).1 =
        (expand root branch left).replaceExample (example? members)) := by
  by_cases others : OtherTypes types
  · cases plain with
    | nil => cases declared
    | @cons branch type? branches types first rest =>
        rcases others type? List.mem_cons_self with ⟨own, rfl, _⟩
        obtain rfl : own = type := Option.some.inj declared
        have whole := first_of_otherTypes followed combined (.cons first rest) within rfl others
        have kind : (expandFrom root nodeBudget value allowance used).1.kind = .ofType own := by
          rw [whole, Schema.kind_replaceExample]
          exact kind_of_plainBranch first (by decide)
        exact ⟨iff_of_true kind (.inr others), .inl kind, fun _ => ⟨branch, rfl, whole⟩⟩
  · have kind := kind_of_notOtherTypes followed combined plain within others
    rw [kind, eq_comm, Kind.ofType_eq_object_iff]
    refine ⟨?_, .inr rfl, fun contrary => absurd contrary others⟩
    constructor
    · exact .inl
    · exact fun either => either.resolve_right others

end Branches

def describedText : Members :=
  [("allOf", .array [.object [("type", .string "string")],
    .object [("description", .string "where the order stands")]])]

/-- The branch without a type makes an object of a text. -/
theorem object_of_describedText :
    branches? describedText "allOf" = some [.object [("type", .string "string")],
      .object [("description", .string "where the order stands")]] ∧
    List.Forall₂ (PlainBranch (.object describedText) 8)
      [.object [("type", .string "string")],
        .object [("description", .string "where the order stands")]]
      [some "string", none] ∧
    (expandFrom (.object describedText) nodeBudget (.object describedText) 8 0).2 ≤ nodeBudget ∧
    (expandFrom (.object describedText) nodeBudget (.object describedText) 8 0).1.kind ≠
      .ofType "string" := by
  refine ⟨rfl, ?_, by decide, by decide⟩
  refine .cons ⟨_, _, rfl, ?_, rfl⟩ (.cons ⟨_, _, rfl, ?_, rfl⟩ .nil) <;> simp [Plain, Json.find?]

def nameDocument : Json :=
  .object [("Name", .object [("type", .string "string"), ("maxLength", .int 8)])]

/-- An `allOf` of a reference into the document and of a branch for numbers, with an example. -/
def referringText : Members :=
  [("allOf", .array [.object [("$ref", .string "#/Name")],
      .object [("type", .array [.string "null", .string "integer"])]]),
    ("example", .string "Rex")]

/-- The first of two types decides, with what its branch says of lengths. -/
theorem kind_of_allOf_referringText :
    follow? nameDocument 8 (.object referringText) = some (.object referringText, 8) ∧
    List.Forall₂ (PlainBranch nameDocument 8)
      [.object [("$ref", .string "#/Name")],
        .object [("type", .array [.string "null", .string "integer"])]]
      [some "string", some "integer"] ∧
    (expandFrom nameDocument nodeBudget (.object referringText) 8 0).2 ≤ nodeBudget ∧
    (expandFrom nameDocument nodeBudget (.object referringText) 8 0).1.kind = .string ∧
    (expandFrom nameDocument nodeBudget (.object referringText) 8 0).1 =
      .string { example? := some (.string "Rex") } { size := { greatest := some 8 } } := by
  have plain : List.Forall₂ (PlainBranch nameDocument 8)
      [.object [("$ref", .string "#/Name")],
        .object [("type", .array [.string "null", .string "integer"])]]
      [some "string", some "integer"] := by
    refine .cons ⟨_, _, rfl, ?_, rfl⟩ (.cons ⟨_, _, rfl, ?_, rfl⟩ .nil) <;>
      simp [Plain, Json.find?]
  have within : (expandFrom nameDocument nodeBudget (.object referringText) 8 0).2 ≤
      nodeBudget := by decide
  have others : OtherTypes [some "string", some "integer"] := by
    simp [OtherTypes]
  have facts := kind_of_allOf rfl rfl plain rfl within
  refine ⟨rfl, plain, within, facts.1.mpr (.inr others), ?_⟩
  rcases facts.2.2 others with ⟨branch, first, whole⟩
  obtain rfl := Option.some.inj first
  exact whole

end ApiStub.Api
