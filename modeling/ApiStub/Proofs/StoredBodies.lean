import ApiStub.Api.Document
import ApiStub.Proofs.BuildInTurn
import ApiStub.Proofs.BuildLayout
import ApiStub.Proofs.ValueNumbers
import ApiStub.Route.Respond
import Mathlib.Data.List.Nodup

/-!
# The bodies an entry stores

An entry stores one body for every status that a response with a JSON schema is served with. Of
several such responses the first counts, and its schema stands beside the body that was drawn for
it. The status to serve is chosen apart from the bodies; `Consistent` says that the two fit, so that
an entry is answered with the chosen status and its own body, or with no body when there is none at
all. An entry comes of a run without a refusal, and each of its bodies is the result of a draw.

The statuses of a description that was read out of a document are status codes, so no request is
answered with the fault that is kept for others.
-/

namespace ApiStub.Api

/-- The first response that is served with a status and has a JSON schema. -/
def Operation.firstUnder? (operation : Operation) (status : Nat) : Option Response :=
  operation.responses.find? fun response =>
    response.key.status == status && response.schemaForJson?.isSome

/-- The JSON schema that counts for a status. -/
def Operation.schemaUnder? (operation : Operation) (status : Nat) : Option Schema :=
  (operation.firstUnder? status).bind Response.schemaForJson?

end ApiStub.Api

namespace ApiStub.Route

open Api (Description Operation Response ResponseKey Schema)
open Http (Method)
open Mock (Maker)

/-! ## The schemas to draw bodies for -/

theorem mem_jsonResponses_iff {operation : Operation} {key : ResponseKey} {schema : Schema} :
    (key, schema) ∈ jsonResponses operation ↔
      ∃ response ∈ operation.responses, response.key = key ∧
        response.schemaForJson? = some schema := by
  simp only [jsonResponses, List.mem_filterMap, Option.map_eq_some_iff, Prod.mk.injEq]
  constructor
  · rintro ⟨response, declared, _, found, rfl, rfl⟩
    exact ⟨response, declared, rfl, found⟩
  · rintro ⟨response, declared, rfl, found⟩
    exact ⟨response, declared, schema, found, rfl, rfl⟩

theorem schemaUnder?_eq_some_iff {operation : Operation} {status : Nat} {schema : Schema} :
    operation.schemaUnder? status = some schema ↔ ∃ response,
      operation.firstUnder? status = some response ∧ response.schemaForJson? = some schema :=
  Option.bind_eq_some_iff

theorem isSome_schemaUnder?_iff {operation : Operation} {status : Nat} :
    (operation.schemaUnder? status).isSome = true ↔ ∃ response ∈ operation.responses,
      response.key.status = status ∧ response.schemaForJson?.isSome = true := by
  rw [Operation.schemaUnder?]
  rcases first : operation.firstUnder? status with _ | response
  · have absent := List.find?_eq_none.mp first
    simpa using absent
  · have found := List.find?_some first
    rw [Bool.and_eq_true, beq_iff_eq] at found
    simp only [Option.bind_some, found.2, true_iff]
    exact ⟨response, List.mem_of_find?_eq_some first, found⟩

theorem find?_jsonResponses (operation : Operation) (status : Nat) :
    ((jsonResponses operation).find? (·.1.status == status)).map (·.2) =
      operation.schemaUnder? status := by
  simp only [jsonResponses, Operation.schemaUnder?, Operation.firstUnder?]
  induction operation.responses with
  | nil => rfl
  | cons response rest ih =>
      rw [List.filterMap_cons, List.find?_cons]
      rcases found : response.schemaForJson? with _ | schema
      · simpa using ih
      · by_cases same : response.key.status = status
        · simp [found, same]
        · simpa [beq_eq_false_iff_ne.mpr same] using ih

theorem mem_untaken_iff {taken : List Nat} {responses : List (ResponseKey × Schema)}
    {status : Nat} {schema : Schema} :
    (status, schema) ∈ untaken taken responses ↔ status ∉ taken ∧
      (responses.find? (·.1.status == status)).map (·.2) = some schema := by
  induction responses generalizing taken with
  | nil => simp [untaken]
  | cons response rest ih =>
      obtain ⟨key, first⟩ := response
      by_cases same : key.status = status
      · subst same
        by_cases known : key.status ∈ taken
        · simp [untaken, known, ih]
        · simp [untaken, known, ih, eq_comm]
      · by_cases known : key.status ∈ taken
        · simp [untaken, known, ih, same]
        · simp [untaken, known, ih, same, Ne.symm same]

theorem nodup_untaken (taken : List Nat) (responses : List (ResponseKey × Schema)) :
    ((untaken taken responses).map (·.1)).Nodup := by
  induction responses generalizing taken with
  | nil => exact .nil
  | cons response rest ih =>
      obtain ⟨key, schema⟩ := response
      simp only [untaken]
      split
      · exact ih taken
      · rw [List.map_cons, List.nodup_cons]
        refine ⟨?_, ih _⟩
        intro again
        rcases List.mem_map.mp again with ⟨⟨status, other⟩, later, same⟩
        have fresh := (mem_untaken_iff.mp later).1
        simp [show status = key.status from same] at fresh

theorem mem_firstByStatus_iff {operation : Operation} {status : Nat} {schema : Schema} :
    (status, schema) ∈ firstByStatus (jsonResponses operation) ↔
      operation.schemaUnder? status = some schema := by
  rw [firstByStatus_eq, mem_untaken_iff, find?_jsonResponses]
  simp

/-! ## Keeping bodies by status -/

theorem perm_insertByStatus (status : Nat) (prepared : Prepared) (ready : List (Nat × Prepared)) :
    (insertByStatus status prepared ready).Perm ((status, prepared) :: ready) := by
  induction ready with
  | nil => exact .refl _
  | cons first rest ih =>
      obtain ⟨other, body⟩ := first
      simp only [insertByStatus]
      split
      · exact .refl _
      · exact (ih.cons _).trans (.swap ..)

theorem ascending_insertByStatus {status : Nat} {ready : List (Nat × Prepared)}
    (prepared : Prepared) (fresh : status ∉ ready.map (·.1))
    (ascending : (ready.map (·.1)).Pairwise (· < ·)) :
    ((insertByStatus status prepared ready).map (·.1)).Pairwise (· < ·) := by
  induction ready with
  | nil => simp [insertByStatus]
  | cons first rest ih =>
      obtain ⟨other, body⟩ := first
      rw [List.map_cons, List.mem_cons, not_or] at fresh
      rw [List.map_cons, List.pairwise_cons] at ascending
      simp only [insertByStatus]
      split
      · rename_i less
        rw [List.map_cons, List.map_cons, List.pairwise_cons, List.pairwise_cons]
        refine ⟨?_, ascending⟩
        intro later later_mem
        rcases List.mem_cons.mp later_mem with rfl | behind
        · exact less
        · exact Nat.lt_trans less (ascending.1 later behind)
      · rename_i notLess
        rw [List.map_cons, List.pairwise_cons]
        refine ⟨?_, ih fresh.2 ascending.2⟩
        intro later later_mem
        rcases List.mem_cons.mp (mem_statuses_insertByStatus.mp later_mem) with rfl | behind
        · have differs := fresh.1
          dsimp only at differs ⊢
          omega
        · exact ascending.1 later behind

/-- The bodies fit some schemas, one by one, and are kept by status. -/
structure KeptFor (fits : Schema → Json → Prop) (schemas : List (Nat × Schema))
    (responses : List (Nat × Prepared)) : Prop where
  ascending : (responses.map (·.1)).Pairwise (· < ·)
  schemas : (responses.map fun response => (response.1, response.2.schema)).Perm schemas
  fits : ∀ status prepared, (status, prepared) ∈ responses → fits prepared.schema prepared.body

section Drawing

variable {fits : Schema → Json → Prop}

theorem KeptFor.insert {schemas : List (Nat × Schema)} {ready : List (Nat × Prepared)}
    {status : Nat} {schema : Schema} {body : Json} (before : KeptFor fits schemas ready)
    (fresh : status ∉ schemas.map (·.1)) (own : fits schema body) :
    KeptFor fits (schemas ++ [(status, schema)])
      (insertByStatus status ⟨schema, body⟩ ready) where
  ascending := by
    have statuses := before.schemas.map (·.1)
    rw [List.map_map] at statuses
    have unused : status ∉ ready.map (·.1) := fun used => fresh (statuses.mem_iff.mp used)
    exact ascending_insertByStatus _ unused before.ascending
  schemas := by
    have inserted := (perm_insertByStatus status ⟨schema, body⟩ ready).map
      fun response => (response.1, response.2.schema)
    exact inserted.trans ((before.schemas.cons _).trans (List.perm_append_singleton _ _).symm)
  fits := by
    intro other prepared mem
    rcases List.mem_cons.mp ((perm_insertByStatus ..).mem_iff.mp mem) with same | earlier
    · cases same
      exact own
    · exact before.fits other prepared earlier

variable {σ : Type} [WordSource σ] {good : σ → Prop}

theorem yieldsIn_prepareAll {maker : Maker}
    (each : ∀ schema, (maker.value schema : Draw σ Json).YieldsIn good (fits schema))
    (before : List (Nat × Schema)) {schemas : List (Nat × Schema)}
    (distinct : ((before ++ schemas).map (·.1)).Nodup) (ready : List (Nat × Prepared)) :
    (prepareAll maker schemas ready : Draw σ (List (Nat × Prepared))).YieldsIn good
      fun responses => KeptFor fits before ready → KeptFor fits (before ++ schemas) responses := by
  induction schemas generalizing before ready with
  | nil =>
      rw [List.append_nil]
      exact Draw.yieldsIn_pure id
  | cons first rest ih =>
      obtain ⟨status, schema⟩ := first
      have fresh : status ∉ before.map (·.1) := by
        rw [List.map_append, List.map_cons, List.nodup_middle, List.nodup_cons] at distinct
        exact fun used => distinct.1 (List.mem_append_left _ used)
      rw [List.append_cons] at distinct ⊢
      refine (each schema).bind fun body => ?_
      refine (ih _ distinct (insertByStatus status ⟨schema, body⟩ ready)).imp ?_
      intro responses kept own ready
      exact kept (ready.insert fresh own)

end Drawing

/-! ## The status to serve -/

theorem mem_of_servedStatus? {operation : Operation} {status : Nat}
    (served : servedStatus? operation = some status) :
    status ∈ (jsonResponses operation).map (·.1.status) := by
  simp only [servedStatus?, Option.orElse_eq_orElse, Option.orElse_eq_or] at served
  rcases Option.or_eq_some_iff.mp served with least | ⟨_, first⟩
  · rcases List.mem_map.mp (List.min?_mem least) with ⟨key, success, rfl⟩
    rcases List.mem_map.mp (List.mem_filter.mp success).1 with ⟨response, declared, rfl⟩
    exact List.mem_map_of_mem declared
  · rcases Option.map_eq_some_iff.mp first with ⟨key, isHead, rfl⟩
    rcases List.mem_map.mp (List.mem_of_head? isHead) with ⟨response, declared, rfl⟩
    exact List.mem_map_of_mem declared

theorem servedStatus?_eq_none_iff {operation : Operation} :
    servedStatus? operation = none ↔ jsonResponses operation = [] := by
  constructor
  · intro none
    simp only [servedStatus?, Option.orElse_eq_orElse, Option.orElse_eq_or,
      Option.or_eq_none_iff] at none
    simpa using none.2
  · intro empty
    simp [servedStatus?, empty]

theorem jsonResponses_eq_nil_iff {operation : Operation} :
    jsonResponses operation = [] ↔
      ∀ response ∈ operation.responses, response.schemaForJson? = none := by
  simp [jsonResponses, List.filterMap_eq_nil_iff]

/-! ## What an entry is answered with -/

/-- The status and the bodies of an entry fit the responses of its operation. -/
structure Consistent (σ : Type) [WordSource σ] (maker : Maker) (operation : Operation)
    (entry : Entry) : Prop where
  /-- Every status has one body. -/
  ascending : (entry.responses.map (·.1)).Pairwise (· < ·)
  /-- The statuses with a body are those of the responses with a JSON schema. -/
  statuses : ∀ status, status ∈ entry.responses.map (·.1) ↔
    ∃ response ∈ operation.responses,
      response.key.status = status ∧ response.schemaForJson?.isSome = true
  schemas : ∀ status prepared, (status, prepared) ∈ entry.responses →
    operation.schemaUnder? status = some prepared.schema
  /-- A body is a value that the maker draws for the schema beside it from some words. -/
  drawn : ∀ status prepared, (status, prepared) ∈ entry.responses →
    ∃ words : σ, (maker.value prepared.schema : Draw (Watched σ) Json).result? words =
      some prepared.body
  selected : entry.status ∈ entry.responses.map (·.1) ∨ entry.responses = [] ∧ entry.status = 204
  /-- The status that is selected is served, with its own body if there is any body. -/
  served : entry.response.1 = entry.status ∧
    ∀ prepared, entry.response.2 = some prepared ↔ (entry.status, prepared) ∈ entry.responses
  bodiless : entry.response = (204, none) ↔
    ∀ response ∈ operation.responses, response.schemaForJson? = none

theorem find?_of_ascending {responses : List (Nat × Prepared)} {status : Nat} {prepared : Prepared}
    (ascending : (responses.map (·.1)).Pairwise (· < ·)) (mem : (status, prepared) ∈ responses) :
    responses.find? (·.1 == status) = some (status, prepared) := by
  rcases List.append_of_mem mem with ⟨before, after, rfl⟩
  refine List.find?_eq_some_iff_append.mpr ⟨by simp, before, after, rfl, ?_⟩
  intro earlier earlier_mem
  rw [List.map_append, List.pairwise_append] at ascending
  have less := ascending.2.2 earlier.1 (List.mem_map_of_mem earlier_mem) status (by simp)
  simpa using Nat.ne_of_lt less

theorem Entry.response_of_mem {entry : Entry} {prepared : Prepared}
    (ascending : (entry.responses.map (·.1)).Pairwise (· < ·))
    (mem : (entry.status, prepared) ∈ entry.responses) :
    entry.response = (entry.status, some prepared) := by
  rw [Entry.response, find?_of_ascending ascending mem]

theorem Entry.response_of_nil {entry : Entry} (empty : entry.responses = []) :
    entry.response = (entry.status, none) := by
  simp [Entry.response, empty]

theorem Entry.response_of_selected {entry : Entry}
    (ascending : (entry.responses.map (·.1)).Pairwise (· < ·))
    (selected : entry.status ∈ entry.responses.map (·.1) ∨
      entry.responses = [] ∧ entry.status = 204) :
    (∃ prepared, (entry.status, prepared) ∈ entry.responses ∧
      entry.response = (entry.status, some prepared)) ∨
    entry.responses = [] ∧ entry.status = 204 ∧ entry.response = (204, none) := by
  rcases selected with stored | ⟨empty, status⟩
  · rcases List.mem_map.mp stored with ⟨⟨_, prepared⟩, mem, rfl⟩
    exact .inl ⟨prepared, mem, Entry.response_of_mem ascending mem⟩
  · exact .inr ⟨empty, status, by rw [Entry.response_of_nil empty, status]⟩

section Drawing

variable {fits : Schema → Json → Prop}

theorem yieldsIn_fill {σ : Type} [WordSource σ] {good : σ → Prop} {maker : Maker}
    (each : ∀ schema, (maker.value schema : Draw σ Json).YieldsIn good (fits schema))
    {template : String} {operation : Operation} {plan : Plan}
    (planned : Plan.ofOperation template operation = .ok plan) :
    (plan.fill maker : Draw σ Entry).YieldsIn good fun entry =>
      entry.status = (servedStatus? operation).getD bodilessStatus ∧
        KeptFor fits (firstByStatus (jsonResponses operation)) entry.responses := by
  rcases bind_eq_ok_iff.mp planned with ⟨compiled, _, same⟩
  cases same
  have empty : KeptFor fits [] [] := ⟨.nil, .refl _, by simp⟩
  have distinct : ((firstByStatus (jsonResponses operation)).map (·.1)).Nodup := by
    rw [firstByStatus_eq]
    exact nodup_untaken _ _
  refine (yieldsIn_prepareAll each [] distinct []).bind fun responses => ?_
  exact Draw.yieldsIn_pure fun kept => ⟨rfl, kept empty⟩

theorem KeptFor.mem_iff {operation : Operation} {responses : List (Nat × Prepared)}
    (kept : KeptFor fits (firstByStatus (jsonResponses operation)) responses) {status : Nat}
    {schema : Schema} :
    (∃ prepared, (status, prepared) ∈ responses ∧ prepared.schema = schema) ↔
      operation.schemaUnder? status = some schema := by
  rw [← mem_firstByStatus_iff, ← kept.schemas.mem_iff]
  simp only [List.mem_map, Prod.mk.injEq, Prod.exists]
  constructor
  · rintro ⟨prepared, mem, rfl⟩
    exact ⟨status, prepared, mem, rfl, rfl⟩
  · rintro ⟨_, prepared, mem, rfl, rfl⟩
    exact ⟨prepared, mem, rfl⟩

theorem KeptFor.mem_statuses_iff {operation : Operation}
    {responses : List (Nat × Prepared)}
    (kept : KeptFor fits (firstByStatus (jsonResponses operation)) responses) {status : Nat} :
    status ∈ responses.map (·.1) ↔ ∃ response ∈ operation.responses,
      response.key.status = status ∧ response.schemaForJson?.isSome = true := by
  rw [← isSome_schemaUnder?_iff, Option.isSome_iff_exists]
  simp only [← kept.mem_iff, List.mem_map, Prod.exists]
  constructor
  · rintro ⟨_, prepared, mem, rfl⟩
    exact ⟨prepared.schema, prepared, mem, rfl⟩
  · rintro ⟨_, prepared, mem, _⟩
    exact ⟨status, prepared, mem, rfl⟩

theorem KeptFor.eq_nil_iff {operation : Operation}
    {responses : List (Nat × Prepared)}
    (kept : KeptFor fits (firstByStatus (jsonResponses operation)) responses) :
    responses = [] ↔ ∀ response ∈ operation.responses, response.schemaForJson? = none := by
  have statuses : responses = [] ↔ ∀ status, status ∉ responses.map (·.1) := by
    rw [← List.eq_nil_iff_forall_not_mem, List.map_eq_nil_iff]
  rw [statuses]
  simp only [kept.mem_statuses_iff, not_exists, not_and, Bool.not_eq_true,
    Option.isSome_eq_false_iff, Option.isNone_iff_eq_none]
  constructor
  · intro absent response declared
    exact absent _ response declared rfl
  · intro absent status response declared _
    exact absent response declared

/-- The status of an entry is that of a body, if there is any body. -/
theorem KeptFor.selected {operation : Operation} {entry : Entry}
    (kept : KeptFor fits (firstByStatus (jsonResponses operation)) entry.responses)
    (status_eq : entry.status = (servedStatus? operation).getD bodilessStatus) :
    entry.status ∈ entry.responses.map (·.1) ∨ entry.responses = [] ∧ entry.status = 204 := by
  rcases chosen : servedStatus? operation with _ | status
  · rw [chosen] at status_eq
    have absent := jsonResponses_eq_nil_iff.mp (servedStatus?_eq_none_iff.mp chosen)
    exact .inr ⟨kept.eq_nil_iff.mpr absent, status_eq⟩
  · rw [chosen] at status_eq
    rcases List.mem_map.mp (mem_of_servedStatus? chosen) with ⟨⟨key, schema⟩, listed, same⟩
    rcases mem_jsonResponses_iff.mp listed with ⟨response, declared, rfl, found⟩
    refine .inl (kept.mem_statuses_iff.mpr ⟨response, declared, ?_, by simp [found]⟩)
    rw [status_eq]
    exact same

/-- An entry that keeps what was drawn for the schemas of its operation is consistent. -/
theorem KeptFor.consistent {σ : Type} [WordSource σ] {maker : Maker} {operation : Operation}
    {entry : Entry}
    (kept : KeptFor (fun schema body => ∃ words : σ,
        (maker.value schema : Draw (Watched σ) Json).result? words = some body)
      (firstByStatus (jsonResponses operation)) entry.responses)
    (status_eq : entry.status = (servedStatus? operation).getD bodilessStatus) :
    Consistent σ maker operation entry := by
  have selected := kept.selected status_eq
  have served := Entry.response_of_selected kept.ascending selected
  refine ⟨kept.ascending, fun status => kept.mem_statuses_iff, ?_, kept.fits, selected, ?_, ?_⟩
  · intro status prepared mem
    exact kept.mem_iff.mp ⟨prepared, mem, rfl⟩
  · rcases served with ⟨prepared, mem, served⟩ | ⟨empty, status, served⟩
    · refine ⟨by rw [served], fun other => ?_⟩
      rw [served]
      constructor
      · rintro ⟨⟩
        exact mem
      · intro other_mem
        have same := Entry.response_of_mem kept.ascending other_mem
        rw [served] at same
        exact congrArg Prod.snd same
    · exact ⟨by rw [served, status], fun other => by simp [served, empty]⟩
  · rw [← kept.eq_nil_iff]
    rcases served with ⟨prepared, mem, served⟩ | ⟨empty, _, served⟩
    · rw [served]
      simp [List.ne_nil_of_mem mem]
    · simp [served, empty]

end Drawing

/-- The entry of an operation is consistent, from whatever words its bodies are drawn. -/
theorem completes_fill_consistent {σ : Type} [WordSource σ] (maker : Maker) {template : String}
    {operation : Operation} {plan : Plan}
    (planned : Plan.ofOperation template operation = .ok plan) :
    (plan.fill maker : Draw (Watched σ) Entry).Completes (Consistent σ maker operation) := by
  refine (yieldsIn_fill maker.completes_value planned).imp fun entry facts => ?_
  rcases facts with ⟨status_eq, kept⟩
  exact kept.consistent status_eq

/-! ## The statuses of a document -/

section Document

variable {document value : Json} {allowance : Nat}

theorem key_of_response? {key : String} {response : Response}
    (read : Api.response? document allowance key value = some response) :
    ResponseKey.ofText? key = some response.key := by
  simp only [Api.response?, Option.bind_eq_bind, Option.bind_eq_some_iff, Option.some.injEq] at read
  rcases read with ⟨parsed, keyRead, _, _, rfl⟩
  exact keyRead

theorem key_of_operation? {shared : List Api.Parameter} {key : String} {operation : Operation}
    {response : Response}
    (read : Api.operation? document allowance shared key value = some operation)
    (declared : response ∈ operation.responses) :
    ∃ text, ResponseKey.ofText? text = some response.key := by
  simp only [Api.operation?, Option.bind_eq_bind, Option.bind_eq_some_iff,
    Option.some.injEq] at read
  rcases read with ⟨members, _, rfl⟩
  rcases List.mem_filterMap.mp declared with ⟨entry, _, responseRead⟩
  exact ⟨entry.1, key_of_response? responseRead⟩

/-- A description that was read out of a document has responses under status codes only. -/
theorem status_of_mem_operations {operation : String × Operation}
    (mem : operation ∈ (Description.ofDocument document allowance).operations)
    {response : Response} (declared : response ∈ operation.2.responses) :
    100 ≤ response.key.status ∧ response.key.status ≤ 599 := by
  rcases List.mem_flatMap.mp mem with ⟨path, path_mem, operation_mem⟩
  rcases List.mem_map.mp operation_mem with ⟨own, own_mem, rfl⟩
  rcases List.mem_filterMap.mp path_mem with ⟨entry, _, pathRead⟩
  simp only [Api.path?, Option.bind_eq_bind, Option.bind_eq_some_iff, Option.some.injEq] at pathRead
  rcases pathRead with ⟨_, _, members, _, rfl⟩
  rcases List.mem_filterMap.mp own_mem with ⟨member, _, operationRead⟩
  rcases key_of_operation? operationRead declared with ⟨text, keyRead⟩
  exact ResponseKey.status_of_ofText? keyRead

end Document

/-- Every status of the entry is one from 100 to 599. -/
def Entry.InRange (entry : Entry) : Prop :=
  ∀ status ∈ entry.status :: entry.response.1 :: entry.responses.map (·.1),
    100 ≤ status ∧ status ≤ 599

theorem Consistent.inRange {σ : Type} [WordSource σ] {maker : Maker} {operation : Operation}
    {entry : Entry} (consistent : Consistent σ maker operation entry)
    (keys : ∀ response ∈ operation.responses,
      100 ≤ response.key.status ∧ response.key.status ≤ 599) : entry.InRange := by
  have stored : ∀ status ∈ entry.responses.map (·.1), 100 ≤ status ∧ status ≤ 599 := by
    intro status mem
    rcases (consistent.statuses status).mp mem with ⟨response, declared, rfl, _⟩
    exact keys response declared
  have selected : 100 ≤ entry.status ∧ entry.status ≤ 599 := by
    rcases consistent.selected with mem | ⟨_, bodiless⟩
    · exact stored _ mem
    · rw [bodiless]
      decide
  intro status mem
  rcases List.mem_cons.mp mem with rfl | later
  · exact selected
  rcases List.mem_cons.mp later with rfl | behind
  · rw [consistent.served.1]
    exact selected
  · exact stored status behind

/-! ## Answers -/

section Answers

variable {σ : Type} [WordSource σ]

/-- The answer of an entry whose status is a status code. -/
def Entry.answer (maker : Maker) (mode : Mode) (entry : Entry) : Draw σ Http.Response :=
  if entry.reportsHealth then pure (.json 200 healthDocument)
  else
    match entry.response with
    | (status, none) => pure (.empty status)
    | (status, some prepared) => Http.Response.json status <$> prepared.serve maker mode

theorem Entry.respond_eq_answer (maker : Maker) (mode : Mode) {entry : Entry}
    (isStatus : Http.isStatus entry.response.1 = true) :
    (entry.respond maker mode : Draw σ Http.Response) = entry.answer maker mode := by
  rcases served : entry.response with ⟨status, _ | prepared⟩ <;>
    rw [served] at isStatus <;>
    simp [Entry.respond, Entry.answer, served, isStatus]

end Answers

theorem Table.mem_of_lookup {entries : List Entry} {method : Method} {target : String}
    {entry : Entry} {bindings : List (String × String)}
    (found : (ofEntries entries).lookup method target = .found entry bindings) :
    entry ∈ entries := by
  rw [lookup_ofEntries] at found
  rcases scan_eq_found_iff.mp found with ⟨_, ⟨_, _, before, after, split, _⟩, _⟩
  rw [split]
  exact List.mem_append_right _ List.mem_cons_self

theorem Entry.InRange.isStatus {entry : Entry} (inRange : entry.InRange) :
    Http.isStatus entry.response.1 = true := by
  have := inRange entry.response.1 (by simp)
  simp only [Http.isStatus, Bool.and_eq_true, decide_eq_true_eq]
  omega

theorem inRange_healthEntry : healthEntry.InRange := by
  simp [Entry.InRange, Entry.response, healthEntry]

/-- Whatever an entry is made from that a document declares, its status and bodies are consistent
and its statuses are status codes. So in a table that is built for a document no entry that a
request finds is answered with the fault that is kept for other statuses, however bodies are come
by. -/
theorem entries_consistent {σ τ : Type} [WordSource σ] [WordSource τ] (maker server : Maker)
    (document : Json) (allowance : Nat) :
    let description := Description.ofDocument document allowance
    (∀ operation ∈ description.operations, ∀ plan,
      Plan.ofOperation operation.1 operation.2 = .ok plan →
        (plan.fill maker : Draw (Watched σ) Entry).Completes fun entry =>
          Consistent σ maker operation.2 entry ∧ entry.InRange) ∧
    (build maker description : Draw (Watched σ) (Except TemplateError Table)).Completes
      fun result => ∀ table, result = .ok table →
        (∃ entries, table.entries.toList = entries ++ [healthEntry] ∧
          List.Forall₂ (fun operation entry =>
            Consistent σ maker operation.2 entry ∧ entry.InRange) description.operations entries) ∧
        ∀ method target entry bindings, table.lookup method target = .found entry bindings →
          Http.isStatus entry.response.1 = true ∧ ∀ mode path,
            (respond server mode (table.lookup method target) method path :
              Draw τ Http.Response) = entry.answer server mode := by
  intro description
  have each : ∀ operation ∈ description.operations, ∀ plan,
      Plan.ofOperation operation.1 operation.2 = .ok plan →
        (plan.fill maker : Draw (Watched σ) Entry).Completes fun entry =>
          Consistent σ maker operation.2 entry ∧ entry.InRange := by
    intro operation declared plan planned
    refine (completes_fill_consistent maker planned).imp fun entry consistent => ⟨consistent, ?_⟩
    exact consistent.inRange fun _ => status_of_mem_operations declared
  refine ⟨each, (yieldsIn_build_entries each).imp fun result facts table built => ?_⟩
  rcases facts table built with ⟨entries, rfl, consistent⟩
  refine ⟨⟨entries, Table.toList_ofEntries _, consistent⟩, ?_⟩
  intro method target entry bindings found
  have inRange : entry.InRange := by
    rcases List.mem_append.mp (Table.mem_of_lookup found) with own | last
    · rcases exists_left_of_mem consistent own with ⟨_, _, _, inRange⟩
      exact inRange
    · rcases List.mem_singleton.mp last with rfl
      exact inRange_healthEntry
  refine ⟨inRange.isStatus, fun mode path => ?_⟩
  rw [found]
  exact Entry.respond_eq_answer server mode inRange.isStatus

/-- A response for every other status before one for a status of its own. -/
def fallbackDocument : Json :=
  .object [("paths", .object [("/pets", .object [("get", .object [("responses", .object [
    ("default", .object [("content", .object [("application/json", .object [
      ("schema", .object [("example", .string "problem")])])])]),
    ("404", .object [("content", .object [("application/json", .object [
      ("schema", .object [("type", .string "boolean")])])])])])])])])]

/-- The fallback is stored beside the other body, and there is a table with the entry of both. -/
theorem entries_consistent_fallback :
    (∃ operation plan entry, operation ∈ (Description.ofDocument fallbackDocument 8).operations ∧
      Plan.ofOperation operation.1 operation.2 = .ok plan ∧
      (plan.fill {} : Draw (Watched ScriptedWords) Entry).result? {} = some entry ∧
      Consistent ScriptedWords {} operation.2 entry ∧ entry.InRange) ∧
    ∃ table, (build {} (Description.ofDocument fallbackDocument 8) :
        Draw (Watched ScriptedWords) _).result? {} = some (.ok table) ∧
      ∃ entries, table.entries.toList = entries ++ [healthEntry] ∧
        List.Forall₂ (fun operation entry =>
            Consistent ScriptedWords {} operation.2 entry ∧ entry.InRange)
          (Description.ofDocument fallbackDocument 8).operations entries := by
  have consistent :=
    @entries_consistent ScriptedWords ScriptedWords _ _ {} {} fallbackDocument 8
  have filled : ∃ operation plan entry,
      operation ∈ (Description.ofDocument fallbackDocument 8).operations ∧
      Plan.ofOperation operation.1 operation.2 = .ok plan ∧
      (plan.fill {} : Draw (Watched ScriptedWords) Entry).result? {} = some entry :=
    ⟨_, _, _, List.mem_cons_self, rfl, Draw.result?_eq_some_iff.mpr ⟨by decide +kernel, rfl⟩⟩
  have built : ∃ table, (build {} (Description.ofDocument fallbackDocument 8) :
      Draw (Watched ScriptedWords) _).result? {} = some (.ok table) :=
    ⟨_, Draw.result?_eq_some_iff.mpr ⟨by decide +kernel, rfl⟩⟩
  rcases filled with ⟨operation, plan, entry, declared, planned, filled⟩
  rcases built with ⟨table, built⟩
  refine ⟨⟨operation, plan, entry, declared, planned, filled, ?_⟩, table, built, ?_⟩
  · exact (consistent.1 operation declared plan planned).of_result? filled
  · exact (consistent.2.of_result? built table rfl).1

end ApiStub.Route
