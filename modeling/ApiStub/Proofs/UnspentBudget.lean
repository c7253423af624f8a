import ApiStub.Proofs.ExpansionRecursion

/-!
# Expansions within the budget

The budget of nodes is the only thing that lets what was expanded before a schema have a say in what
becomes of it. An expansion that ends within the budget gives the same schema when fewer nodes were
spent before it, and it spends as many nodes then.

Fuel for the whole budget is always enough, so the statements are about `expandFrom` with that much.
-/

namespace ApiStub.Api

theorem expandFrom_nodeBudget (root value : Json) (allowance : Nat) :
    expandFrom root nodeBudget value allowance =
      visitOnce root (expandFrom root nodeBudget) value allowance :=
  solves_iff.mpr rfl value allowance

theorem le_expandFrom (root : Json) (fuel : Nat) (place : Json) (allowance used : Nat) :
    used ≤ (expandFrom root fuel place allowance used).2 :=
  Nat.le_of_lt (lt_expandFrom root place fuel allowance used)

/-- With `more` nodes spent before it, a computation does the same as without them. -/
def Shifts {α : Type} (compute : Expansion α) (used more : Nat) : Prop :=
  (compute (used + more)).2 ≤ nodeBudget →
    compute (used + more) = ((compute used).1, (compute used).2 + more)

theorem shifts_visitAll {visit : Json → Nat → Expansion Schema} {allowance : Nat}
    {places : List Json} {used more : Nat}
    (grows : ∀ place used, used ≤ (visit place allowance used).2)
    (each : ∀ place later, used ≤ later → Shifts (visit place allowance) later more) :
    Shifts (visitAll visit allowance places) used more := by
  induction places generalizing used with
  | nil => exact fun _ => rfl
  | cons place rest ih =>
      intro within
      simp only [visitAll_cons_apply] at within ⊢
      have first_within := Nat.le_trans (le_visitAll grows rest _) within
      have first := each place used (Nat.le_refl used) first_within
      have later : Shifts (visitAll visit allowance rest) (visit place allowance used).2 more :=
        ih fun other spent le => each other spent (Nat.le_trans (grows place used) le)
      rw [first] at within ⊢
      rw [later within]

/-- Every visit that ends within the budget is the same when fewer nodes were spent before. -/
theorem shifts_expandFrom (root value : Json) (allowance used more : Nat) :
    Shifts (expandFrom root nodeBudget value allowance) used more := by
  -- The visits below one begin with more nodes spent, so the induction is on what is left.
  induction left : nodeBudget - used using Nat.strong_induction_on
    generalizing value allowance used with
  | _ left ih =>
      intro within
      rw [expandFrom_nodeBudget] at within ⊢
      rcases shut_or_open root value allowance (used + more) with
        shut | ⟨inside, members, rest, followed⟩
      · rw [visitOnce_of_shut shut] at within ⊢
        have closed : Shut root value allowance used :=
          .inr (shut.resolve_left fun spent => by omega)
        rw [visitOnce_of_shut closed, Nat.add_right_comm]
      · rcases exists_assembly members with ⟨assemble, assembled, _⟩
        rw [visitOnce_of_open inside followed, assembled] at within ⊢
        rw [visitOnce_of_open (by omega) followed, assembled]
        have below : Shifts (visitAll (expandFrom root nodeBudget) rest (visited members))
            (used + 1) more := by
          refine shifts_visitAll (fun place => le_expandFrom root nodeBudget place rest) ?_
          intro place later le
          exact ih (nodeBudget - later) (by omega) place rest later rfl
        have places := below (by rwa [Nat.add_right_comm])
        rw [Nat.add_right_comm] at places
        exact congrArg (fun run => (assemble run.1, run.2)) places

/-- Within the budget a schema becomes what it becomes by itself. -/
theorem expandFrom_eq_expand {root value : Json} {allowance used : Nat}
    (within : (expandFrom root nodeBudget value allowance used).2 ≤ nodeBudget) :
    (expandFrom root nodeBudget value allowance used).1 = expand root value allowance := by
  have shifted := shifts_expandFrom root value allowance 0 used
  rw [Shifts, Nat.zero_add] at shifted
  rw [shifted within, expand]

end ApiStub.Api
