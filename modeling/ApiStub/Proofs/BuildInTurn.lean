import ApiStub.Proofs.RouteBuild

/-!
# Building in turn

`build` makes a plan of each operation, which says for which schemas bodies are to be drawn, and
gathers the entries before they are put into a table. Here the same table is built without plans,
path by path: an operation's template is compiled, its bodies are drawn response by response unless
their status has one, and its entry is pushed before the next operation is looked at.

The two are the same draw. A body is drawn for the first response of every status in both, in the
same order, and a template that is malformed ends both with the same words taken.
-/

namespace ApiStub.Route

open Api (Description Operation Path ResponseKey Schema)
open Mock (Maker)

section Drawing

variable {σ : Type} [WordSource σ]

end Drawing

/-! ## The responses of one operation -/

/-- The first response of every status that is not taken, in order. -/
def untaken (taken : List Nat) : List (ResponseKey × Schema) → List (Nat × Schema)
  | [] => []
  | (key, schema) :: rest =>
    if key.status ∈ taken then untaken taken rest
    else (key.status, schema) :: untaken (key.status :: taken) rest

theorem untaken_congr {taken others : List Nat} (same : ∀ status, status ∈ taken ↔ status ∈ others)
    (responses : List (ResponseKey × Schema)) :
    untaken taken responses = untaken others responses := by
  induction responses generalizing taken others with
  | nil => rfl
  | cons response rest ih =>
      obtain ⟨key, schema⟩ := response
      have extended : ∀ status, status ∈ key.status :: taken ↔ status ∈ key.status :: others := by
        intro status
        rw [List.mem_cons, List.mem_cons, same status]
      simp only [untaken, same key.status, ih same, ih extended]

theorem firstByStatus_eq (responses : List (ResponseKey × Schema)) :
    firstByStatus responses = untaken [] responses := by
  suffices general : ∀ chosen : List (Nat × Schema),
      responses.foldl (fun chosen response =>
        if chosen.any (·.1 == response.1.status) then chosen
        else chosen ++ [(response.1.status, response.2)])
        chosen = chosen ++ untaken (chosen.map (·.1)) responses from general []
  induction responses with
  | nil => simp [untaken]
  | cons response rest ih =>
      obtain ⟨key, schema⟩ := response
      intro chosen
      have known : chosen.any (·.1 == key.status) = decide (key.status ∈ chosen.map (·.1)) := by
        rw [Bool.eq_iff_iff]
        simp
      rw [List.foldl_cons, ih]
      by_cases taken : key.status ∈ chosen.map (·.1)
      · simp only [known, taken, decide_true, if_true, untaken]
      · have grown : ∀ status, status ∈ (chosen ++ [(key.status, schema)]).map (·.1) ↔
            status ∈ key.status :: chosen.map (·.1) := by
          intro status
          rw [List.map_append, List.mem_append, List.mem_cons, or_comm]
          simp
        simp only [known, taken, decide_false, Bool.false_eq_true, if_false, untaken,
          untaken_congr grown, List.append_assoc, List.singleton_append]

theorem mem_statuses_insertByStatus {status other : Nat} {prepared : Prepared}
    {ready : List (Nat × Prepared)} :
    other ∈ (insertByStatus status prepared ready).map (·.1) ↔
      other ∈ status :: ready.map (·.1) := by
  induction ready with
  | nil => simp [insertByStatus]
  | cons first rest ih =>
      obtain ⟨known, body⟩ := first
      simp only [insertByStatus]
      split
      · simp
      · rw [List.map_cons, List.mem_cons, ih]
        simp only [List.map_cons, List.mem_cons]
        tauto

section Drawing

variable {σ : Type} [WordSource σ]

end Drawing

end ApiStub.Route
