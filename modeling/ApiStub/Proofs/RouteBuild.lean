import ApiStub.Proofs.AnsweredDraws
import ApiStub.Proofs.Traversal
import ApiStub.Route.Build

/-!
# What is in a built table

A table that is built has one entry for every operation of the description, in order, and the
entry that says that the server is alive at the end. Only the bodies depend on the words that were
drawn, so the statements here hold for every source.

What fillings yield in some runs, all runs or only those without a refusal, is carried over to the
table in the same runs.
-/

namespace ApiStub.Route

open Api (Description Operation Schema)
open Mock (Maker)

/-- The entry keeps what the plan settles before anything is drawn. -/
structure Fills (plan : Plan) (entry : Entry) : Prop where
  method : entry.method = plan.method
  template : entry.template = plan.template
  status : entry.status = plan.status
  origin : entry.origin = .operation plan.operationId

/-- The entry answers for an operation under the template of its path. -/
structure Declares (operation : String × Operation) (entry : Entry) : Prop where
  method : entry.method = operation.2.method
  template : Template.compile operation.1 operation.2 = .ok entry.template
  origin : entry.origin = .operation operation.2.operationId

theorem Declares.not_reportsHealth {operation : String × Operation} {entry : Entry}
    (declares : Declares operation entry) : entry.reportsHealth = false := by
  simp [Entry.reportsHealth, declares.origin]

theorem Fills.declares {operation : String × Operation} {plan : Plan} {entry : Entry}
    (fills : Fills plan entry) (planned : Plan.ofOperation operation.1 operation.2 = .ok plan) :
    Declares operation entry := by
  rcases bind_eq_ok_iff.mp planned with ⟨template, compiled, same⟩
  cases same
  exact ⟨fills.method, by rw [compiled, fills.template], fills.origin⟩

section Drawing

variable {σ : Type} [WordSource σ]

theorem yields_fill (maker : Maker) (plan : Plan) :
    (plan.fill maker : Draw σ Entry).Yields (Fills plan) :=
  (Draw.yields_trivial _).bind fun _ _ => Draw.yields_pure ⟨rfl, rfl, rfl, rfl⟩

/-- What the fillings of an operation's plan yield holds of the operations and their entries, one by
one. -/
theorem yieldsIn_fillAll {good : σ → Prop} {maker : Maker}
    {holds : String × Operation → Entry → Prop} {operations : List (String × Operation)}
    (each : ∀ operation ∈ operations, ∀ plan,
      Plan.ofOperation operation.1 operation.2 = .ok plan →
        (plan.fill maker : Draw σ Entry).YieldsIn good (holds operation)) (done : List Entry) :
    (fillAll maker operations done : Draw σ (Except TemplateError (List Entry))).YieldsIn good
      fun result => ∀ entries, result = .ok entries →
        ∃ added, entries = done.reverse ++ added ∧ List.Forall₂ holds operations added := by
  induction operations generalizing done with
  | nil =>
      refine Draw.yieldsIn_pure fun entries filled => ?_
      cases filled
      exact ⟨[], by simp, .nil⟩
  | cons operation rest ih =>
      rw [List.forall_mem_cons] at each
      rw [fillAll]
      rcases planned : Plan.ofOperation operation.1 operation.2 with error | plan
      · exact Draw.yieldsIn_pure nofun
      · refine (each.1 plan planned).bind fun entry => ?_
        refine (ih each.2 (entry :: done)).imp fun result facts held entries filled => ?_
        rcases facts entries filled with ⟨added, rfl, others⟩
        exact ⟨entry :: added, by simp, .cons held others⟩

/-- A table that is built holds an entry for each operation, with what the fillings of its plan
yield, and then the one that says that the server is alive. -/
theorem yieldsIn_build_entries {good : σ → Prop} {maker : Maker} {description : Description}
    {holds : String × Operation → Entry → Prop}
    (each : ∀ operation ∈ description.operations, ∀ plan,
      Plan.ofOperation operation.1 operation.2 = .ok plan →
        (plan.fill maker : Draw σ Entry).YieldsIn good (holds operation)) :
    (build maker description : Draw σ (Except TemplateError Table)).YieldsIn good fun result =>
      ∀ table, result = .ok table → ∃ entries,
        table = Table.ofEntries (entries ++ [healthEntry]) ∧
          List.Forall₂ holds description.operations entries := by
  refine (yieldsIn_fillAll each []).map fun result facts table built => ?_
  rcases result with error | entries
  · cases built
  · cases built
    rcases facts entries rfl with ⟨added, rfl, held⟩
    exact ⟨entries, rfl, held⟩

/-- A table that is built holds the entries of the operations, then the one that says that the
server is alive. -/
theorem yields_build (maker : Maker) (description : Description) :
    (build maker description : Draw σ (Except TemplateError Table)).Yields fun result =>
      ∀ table, result = .ok table → ∃ entries,
        table = Table.ofEntries (entries ++ [healthEntry]) ∧
          List.Forall₂ Declares description.operations entries := by
  refine Draw.yieldsIn_true_iff.mp (yieldsIn_build_entries fun operation _ plan planned => ?_)
  refine Draw.yieldsIn_true_iff.mpr ((yields_fill maker plan).imp fun entry fills => ?_)
  exact fills.declares planned

end Drawing

end ApiStub.Route
