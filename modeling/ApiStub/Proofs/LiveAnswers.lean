import ApiStub.Proofs.NumberRange
import ApiStub.Proofs.StoredBodies
import ApiStub.Proofs.ValueNumbers

/-!
# Live answers

A request is answered with the same status whether bodies are ready or drawn live, and with a body
in both cases or in none. Where no stored body is served the answers are the same: when nothing is
found, for the entry that says that the server is alive, for an entry without bodies, and for one
whose status is no status code. Elsewhere the ready body and the live one are values that the maker
draws for one schema, and some source draws the ready one live.

A table is the result of a run without a refusal, so each body in it is the result of its own draw.
A live draw may be refused where the one for the table was not, if the schema holds a pattern whose
counts are not in order.
-/

namespace ApiStub

namespace Json

end Json

namespace Route

open Api (Description Operation Response Schema)
open Http (Method)
open Mock (Maker)

/-! ## The answers -/

/-- The answer of a table to a request. -/
def Table.answer {σ : Type} [WordSource σ] (table : Table) (maker : Maker) (mode : Mode)
    (method : Method) (path : String) : Draw σ Http.Response :=
  respond maker mode (table.lookup method path) method path

/-- The request is answered with a body that is stored: it finds an entry of an operation, whose
status is a status code and stands with the body. -/
def Table.Serves (table : Table) (method : Method) (path : String) (status : Nat)
    (prepared : Prepared) : Prop :=
  ∃ entry bindings, table.lookup method path = .found entry bindings ∧
    entry.reportsHealth = false ∧ Http.isStatus status = true ∧
      entry.response = (status, some prepared)

section Answers

variable {table : Table} {method : Method} {path : String} {status : Nat} {prepared : Prepared}

end Answers

section Agreement

variable {σ : Type} [WordSource σ] {maker : Maker} {description : Description} {words : σ}
  {table : Table} {method : Method} {path : String} {status : Nat} {prepared : Prepared}

/-- A body that is served belongs to the entry of an operation, which is consistent. -/
theorem Table.Serves.consistent
    (built : (build maker description : Draw (Watched σ) _).result? words = some (.ok table))
    (serves : table.Serves method path status prepared) :
    ∃ operation ∈ description.operations, ∃ entry, Consistent σ maker operation.2 entry ∧
      (entry.status, prepared) ∈ entry.responses := by
  have each : ∀ operation ∈ description.operations, ∀ plan,
      Plan.ofOperation operation.1 operation.2 = .ok plan →
        (plan.fill maker : Draw (Watched σ) Entry).Completes (Consistent σ maker operation.2) :=
    fun _ _ _ planned => completes_fill_consistent maker planned
  have entries := yieldsIn_build_entries each
  rcases Draw.Completes.of_result? entries built table rfl with ⟨entries, rfl, consistent⟩
  rcases serves with ⟨entry, bindings, found, operation, -, response⟩
  rcases List.mem_append.mp (mem_of_lookup found) with own | last
  · rcases exists_left_of_mem consistent own with ⟨operation, operation_mem, consistent⟩
    exact ⟨operation, operation_mem, entry, consistent,
      (consistent.served.2 prepared).mp (by rw [response])⟩
  · rw [List.mem_singleton.mp last] at operation
    cases operation

/-- A body that is served was drawn on its own, for the schema beside it. -/
theorem Table.Serves.drawn
    (built : (build maker description : Draw (Watched σ) _).result? words = some (.ok table))
    (serves : table.Serves method path status prepared) :
    ∃ words : σ, (maker.value prepared.schema : Draw (Watched σ) Json).result? words =
      some prepared.body := by
  rcases serves.consistent built with ⟨operation, _, entry, consistent, prepared_mem⟩
  exact consistent.drawn _ _ prepared_mem

/-- The schema of a body that is served is that of a declared response. -/
theorem Table.Serves.declared
    (built : (build maker description : Draw (Watched σ) _).result? words = some (.ok table))
    (serves : table.Serves method path status prepared) :
    ∃ operation ∈ description.operations, ∃ response ∈ operation.2.responses,
      response.schemaForJson? = some prepared.schema := by
  rcases serves.consistent built with ⟨operation, operation_mem, entry, consistent, prepared_mem⟩
  rcases schemaUnder?_eq_some_iff.mp (consistent.schemas _ _ prepared_mem) with
    ⟨declared, first, schema_eq⟩
  exact ⟨operation, operation_mem, declared, List.mem_of_find?_eq_some first, schema_eq⟩

end Agreement

end Route

end ApiStub
