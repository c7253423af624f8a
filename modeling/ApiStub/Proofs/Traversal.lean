import Mathlib.Data.List.Forall2
import Mathlib.Data.List.TakeWhile

/-!
# Traversals and stretches of lists

A traversal that may fail succeeds when it does so on every member, and what is made of a result
fails with it. Related lists have related members. The stretch of a list up to a mark does not hold
the mark, and what is left begins with it.
-/

namespace ApiStub

theorem bind_eq_ok_iff {ε α β : Type} {first : Except ε α} {next : α → Except ε β} {value : β} :
    (first >>= next) = .ok value ↔ ∃ between, first = .ok between ∧ next between = .ok value := by
  cases first with
  | error error => simp [bind, Except.bind]
  | ok between => simp [bind, Except.bind]

theorem exists_ok_iff_of_map_eq {ε α β γ : Type} {f : α → γ} {g : β → γ} {first : Except ε α}
    {second : Except ε β} (same : first.map f = second.map g) :
    (∃ value, first = .ok value) ↔ ∃ value, second = .ok value := by
  constructor
  · rintro ⟨value, rfl⟩
    rcases second with _ | other
    · cases same
    · exact ⟨other, rfl⟩
  · rintro ⟨value, rfl⟩
    rcases first with _ | other
    · cases same
    · exact ⟨other, rfl⟩

theorem exists_right_of_mem {α β : Type} {R : α → β → Prop} {lefts : List α} {rights : List β}
    (related : List.Forall₂ R lefts rights) {left : α} (left_mem : left ∈ lefts) :
    ∃ right ∈ rights, R left right := by
  induction related with
  | nil => simp at left_mem
  | cons first others ih =>
      rcases List.mem_cons.mp left_mem with rfl | later
      · exact ⟨_, List.mem_cons_self, first⟩
      · rcases ih later with ⟨right, right_mem, holds⟩
        exact ⟨right, List.mem_cons_of_mem _ right_mem, holds⟩

theorem exists_left_of_mem {α β : Type} {R : α → β → Prop} {lefts : List α} {rights : List β}
    (related : List.Forall₂ R lefts rights) {right : β} (right_mem : right ∈ rights) :
    ∃ left ∈ lefts, R left right :=
  exists_right_of_mem (R := flip R) related.flip right_mem

/-- The stretch up to a mark, and what is left from the mark on. -/
theorem takeWhile_ne_split {α : Type} [BEq α] [LawfulBEq α] (mark : α) (input : List α) :
    input = input.takeWhile (· != mark) ++ input.dropWhile (· != mark) ∧
      mark ∉ input.takeWhile (· != mark) ∧
      ∀ first ∈ (input.dropWhile (· != mark)).head?, first = mark := by
  refine ⟨List.takeWhile_append_dropWhile.symm, ?_, ?_⟩
  · intro inside
    have differs := List.mem_takeWhile_imp inside
    simp at differs
  · intro first first_mem
    have stopped := List.head?_dropWhile_not (· != mark) input
    rw [Option.mem_def] at first_mem
    simpa [first_mem] using stopped

end ApiStub
