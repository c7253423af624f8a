import ApiStub.Proofs.DistinctNames

/-!
# Required names

The names that an object is drawn with are declared ones, and every required one is among them as
far as it is declared. A name that is required only, in a schema written by hand or after a merge,
has no schema to draw a value for, and is left out.
-/

namespace ApiStub.Mock.Maker

open Api (Marks Schema)

section Drawing

variable {σ : Type} [WordSource σ]

/-- The members that are added have declared names, and all the required ones of these. -/
theorem yields_names_membersAt (maker : Maker) (depth : Nat) (required : List String)
    (properties : List (String × Schema)) (members : Members) :
    (maker.membersAt depth required properties members : Draw σ Members).Yields fun all =>
      ∀ name,
        (name ∈ all.map (·.1) → name ∈ members.map (·.1) ∨ name ∈ properties.map (·.1)) ∧
        (name ∈ members.map (·.1) ∨ name ∈ required ∧ name ∈ properties.map (·.1) →
          name ∈ all.map (·.1)) := by
  induction properties generalizing members with
  | nil =>
      rw [membersAt]
      apply Draw.yields_pure
      intro name
      simp
  | cons property rest ih =>
      rcases property with ⟨first, schema⟩
      rw [membersAt]
      refine (yields_included maker.policy required first).bind fun taken reason => ?_
      cases taken with
      | true =>
          refine (Draw.yields_trivial _).bind fun value _ => ?_
          refine (ih (Json.put first value members)).imp fun all names name => ?_
          simp only [List.map_cons, List.mem_cons]
          have here := names name
          rw [Json.mem_names_put_iff] at here
          tauto
      | false =>
          have optional : first ∉ required := reason.1
          refine (ih members).imp fun all names name => ?_
          simp only [List.map_cons, List.mem_cons]
          constructor
          · intro drawn
            exact ((names name).1 drawn).imp_right .inr
          · rintro (earlier | ⟨wanted, rfl | later⟩)
            · exact (names name).2 (.inl earlier)
            · exact absurd wanted optional
            · exact (names name).2 (.inr ⟨wanted, later⟩)

/-- An object is drawn with declared names, and with a required name exactly when that is
declared. -/
theorem required_iff_declared (maker : Maker) {depth : Nat} {marks : Marks}
    {properties : List (String × Schema)} {required : List String}
    (unmarked : marks.example? = none) (shallow : depth ≤ maker.policy.maxDepth) :
    (maker.valueAt depth (.object marks properties required) : Draw σ Json).Yields fun value =>
      ∃ members, value = .object members ∧
        (∀ name ∈ members.map (·.1), name ∈ properties.map (·.1)) ∧
        ∀ name ∈ required, name ∈ members.map (·.1) ↔ name ∈ properties.map (·.1) := by
  have drawn := yields_names_membersAt (σ := σ) maker (depth + 1) required properties []
  rw [valueAt, guarded]
  simp only [Schema.marks, unmarked, if_neg (Nat.not_lt.mpr shallow)]
  refine drawn.map fun members names => ?_
  have declared : ∀ name ∈ members.map (·.1), name ∈ properties.map (·.1) := by
    intro name mem
    exact ((names name).1 mem).resolve_left (by simp)
  refine ⟨members, rfl, declared, fun name wanted => ⟨declared name, fun there => ?_⟩⟩
  exact (names name).2 (.inr ⟨wanted, there⟩)

end Drawing

/-- The tag of a pet need not be there, the name must. -/
theorem required_iff_declared_tagged :
    let pet : Schema := .object {} [("name", .string {} {}), ("tag", .string {} {})] ["name", "id"]
    pet.marks.example? = none ∧ 0 ≤ ({} : Maker).policy.maxDepth ∧
      ((({} : Maker).valueAt 0 pet : Draw ScriptedWords Json).Yields fun value =>
        ∃ members, value = .object members ∧ "name" ∈ members.map (·.1) ∧
          "id" ∉ members.map (·.1)) := by
  intro pet
  refine ⟨rfl, Nat.zero_le _, ?_⟩
  refine (required_iff_declared {} rfl (Nat.zero_le _)).imp fun value facts => ?_
  rcases facts with ⟨members, rfl, -, required⟩
  refine ⟨members, rfl, (required "name" (by simp)).mpr (by simp), fun there => ?_⟩
  have declared := (required "id" (by simp)).mp there
  simp at declared

/-- A schema that requires a name beside the one it declares. -/
def undeclaredName : Json :=
  .object [
    ("type", .string "object"),
    ("properties", .object [("id", .object [("example", .int 7)])]),
    ("required", .array [.string "id", .string "name"])]

/-- No source gives the object a member of the name that is only required. -/
theorem missing_of_undeclaredName :
    ∃ marks properties required,
      Api.expand undeclaredName undeclaredName 8 = .object marks properties required ∧
      marks.example? = none ∧ "name" ∈ required ∧
      ∀ source : ScriptedWords,
        ((({} : Maker).value (.object marks properties required)).run source).1 =
          .object [("id", .int 7)] := by
  refine ⟨{}, [("id", .object { example? := some (.int 7) } [] [])], ["id", "name"], rfl, rfl,
    by simp, fun source => rfl⟩

end ApiStub.Mock.Maker
