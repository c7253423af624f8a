import ApiStub.Proofs.StoredBodies

/-!
# The success that is served

Of several successes the lowest is served. The status is chosen among the codes that responses are
declared under, while bodies are stored by the status they are served with, and a response for every
other status is stored under 200 as well. So the two part in one case: where such a response comes
first among those that are served with 200, its body is served for a code that it was not declared
under. In all other cases the body belongs to a response under the code.
-/

namespace ApiStub.Route

open Api (Operation Response ResponseKey Schema)
open Mock (Maker)

/-- The code is the lowest success that a response with a JSON schema is declared under. -/
structure LowestSuccess (operation : Operation) (code : Nat) : Prop where
  declared : ∃ response ∈ operation.responses,
    response.key = .code code ∧ response.schemaForJson?.isSome = true
  success : 200 ≤ code ∧ code < 300
  least : ∀ response ∈ operation.responses, ∀ other, response.key = .code other →
    200 ≤ other ∧ other < 300 → response.schemaForJson?.isSome = true → code ≤ other

/-- Of the responses with a JSON schema that are served with 200, the first is the one for every
other status. -/
def FallbackFirst (operation : Operation) : Prop :=
  (operation.firstUnder? 200).map (·.key) = some .otherwise

theorem servedStatus?_of_lowestSuccess {operation : Operation} {code : Nat}
    (lowest : LowestSuccess operation code) : servedStatus? operation = some code := by
  have least : ((((jsonResponses operation).map (·.1)).filter ResponseKey.meansSuccess).map
      ResponseKey.status).min? = some code := by
    rw [List.min?_eq_some_iff]
    simp only [List.mem_map, List.mem_filter]
    constructor
    · rcases lowest.declared with ⟨response, declared, key_eq, hasSchema⟩
      rcases Option.isSome_iff_exists.mp hasSchema with ⟨schema, found⟩
      refine ⟨.code code, ⟨⟨(.code code, schema), ?_, rfl⟩, ?_⟩, rfl⟩
      · exact mem_jsonResponses_iff.mpr ⟨response, declared, key_eq, found⟩
      · simpa [ResponseKey.meansSuccess] using lowest.success
    · rintro _ ⟨key, ⟨⟨⟨_, schema⟩, listed, rfl⟩, success⟩, rfl⟩
      rcases mem_jsonResponses_iff.mp listed with ⟨response, declared, key_eq, found⟩
      dsimp only at key_eq success ⊢
      cases key : response.key with
      | otherwise => simp [← key_eq, key, ResponseKey.meansSuccess] at success
      | code other =>
          rw [← key_eq, key] at success ⊢
          exact lowest.least response declared other key
            (by simpa [ResponseKey.meansSuccess] using success) (by simp [found])
  simp [servedStatus?, least]

theorem key_of_firstUnder? {operation : Operation} {status : Nat} {response : Response}
    (first : operation.firstUnder? status = some response) :
    response.key = .code status ∨ status = 200 ∧ response.key = .otherwise := by
  have found := List.find?_some first
  rw [Bool.and_eq_true, beq_iff_eq] at found
  cases key : response.key with
  | code other =>
      rw [key] at found
      exact .inl (congrArg ResponseKey.code found.1)
  | otherwise =>
      rw [key] at found
      exact .inr ⟨found.1.symm, rfl⟩

/-- The status that is selected is served with a body of the schema that counts for it. -/
theorem yields_fill_served {σ : Type} [WordSource σ] (maker : Maker) {template : String}
    {operation : Operation} {plan : Plan} {status : Nat}
    (planned : Plan.ofOperation template operation = .ok plan)
    (selected : servedStatus? operation = some status) :
    (plan.fill maker : Draw σ Entry).Yields fun entry => ∃ prepared,
      entry.response = (status, some prepared) ∧
      operation.schemaUnder? status = some prepared.schema ∧
      ∃ source : σ, ((maker.value prepared.schema).run source).1 = prepared.body := by
  have each : ∀ schema, (maker.value schema : Draw σ Json).YieldsIn (fun _ => True) fun body =>
      ∃ source : σ, ((maker.value schema).run source).1 = body :=
    fun schema source _ => ⟨trivial, source, rfl⟩
  refine Draw.yieldsIn_true_iff.mp ((yieldsIn_fill each planned).imp fun entry facts => ?_)
  rcases facts with ⟨status_eq, kept⟩
  rw [selected, Option.getD_some] at status_eq
  rcases List.mem_map.mp (mem_of_servedStatus? selected) with ⟨⟨key, schema⟩, listed, same⟩
  rcases mem_jsonResponses_iff.mp listed with ⟨response, declared, rfl, found⟩
  have stored := kept.mem_statuses_iff.mpr ⟨response, declared, same, by simp [found]⟩
  rcases List.mem_map.mp stored with ⟨⟨_, prepared⟩, mem, rfl⟩
  refine ⟨prepared, ?_, kept.mem_iff.mp ⟨prepared, mem, rfl⟩, kept.fits _ _ mem⟩
  rw [Entry.response_of_mem kept.ascending (by rw [status_eq]; exact mem), status_eq]

/-- With a success that has a JSON schema, the lowest one is served, with a body that was drawn for
the schema of the first response that is served with it. That response is declared under the code,
unless the code is 200 and the response for every other status comes first. -/
theorem response_of_lowestSuccess {σ : Type} [WordSource σ] (maker : Maker) {template : String}
    {operation : Operation} {plan : Plan} {code : Nat} (lowest : LowestSuccess operation code)
    (planned : Plan.ofOperation template operation = .ok plan) :
    (plan.fill maker : Draw σ Entry).Yields fun entry => ∃ prepared,
      entry.response = (code, some prepared) ∧
      (∃ source : σ, ((maker.value prepared.schema).run source).1 = prepared.body) ∧
      ∃ response ∈ operation.responses, response.schemaForJson? = some prepared.schema ∧
        (¬(code = 200 ∧ FallbackFirst operation) → response.key = .code code) ∧
        (code = 200 ∧ FallbackFirst operation → response.key = .otherwise) := by
  have selected := servedStatus?_of_lowestSuccess lowest
  refine (yields_fill_served maker planned selected).imp fun entry facts => ?_
  rcases facts with ⟨prepared, served, counts, drawn⟩
  rcases schemaUnder?_eq_some_iff.mp counts with ⟨response, first, found⟩
  refine ⟨prepared, served, drawn, response, List.mem_of_find?_eq_some first, found, ?_, ?_⟩
  · intro ahead
    rcases key_of_firstUnder? first with own | ⟨rfl, fallback⟩
    · exact own
    · exact absurd ⟨rfl, by rw [FallbackFirst, first, Option.map_some, fallback]⟩ ahead
  · rintro ⟨rfl, fallback⟩
    rw [FallbackFirst, first] at fallback
    exact Option.some.inj fallback

/-- An operation with a response for every other status before one for success. -/
def fallbackFirstOperation : Operation where
  method := .get
  responses := [
    ⟨.otherwise, [("application/json", some (.string {} {}))]⟩,
    ⟨.code 200, [("application/json", some (.boolean {}))]⟩]

/-- The schema of the fallback is served with status 200, whatever is drawn, and no response under
the code has that schema. -/
theorem fallback_served_for_success :
    LowestSuccess fallbackFirstOperation 200 ∧
      ∃ plan, Plan.ofOperation "/pets" fallbackFirstOperation = .ok plan ∧
        ∀ source : ScriptedWords, ∃ prepared,
          ((plan.fill {}).run source).1.response = (200, some prepared) ∧
          ¬∃ response ∈ fallbackFirstOperation.responses, response.key = .code 200 ∧
            response.schemaForJson? = some prepared.schema := by
  have json : Api.declaresJson "application/json" = true := by decide +kernel
  have lowest : LowestSuccess fallbackFirstOperation 200 := by
    refine ⟨⟨_, List.mem_cons_of_mem _ List.mem_cons_self, rfl, ?_⟩, by decide, ?_⟩
    · simp [Response.schemaForJson?, json]
    · intro response declared other key_eq success _
      exact success.1
  have counts : fallbackFirstOperation.schemaUnder? 200 = some (.string {} {}) := by
    simp [Operation.schemaUnder?, Operation.firstUnder?, fallbackFirstOperation,
      Response.schemaForJson?, ResponseKey.status, json]
  have compiles : ∃ plan, Plan.ofOperation "/pets" fallbackFirstOperation = .ok plan := ⟨_, rfl⟩
  rcases compiles with ⟨plan, planned⟩
  refine ⟨lowest, plan, planned, fun source => ?_⟩
  rcases yields_fill_served {} planned (servedStatus?_of_lowestSuccess lowest) source with
    ⟨prepared, served, schema, _⟩
  refine ⟨prepared, served, ?_⟩
  rw [counts] at schema
  rw [← schema]
  simp [fallbackFirstOperation, Response.schemaForJson?, json]

/-- An operation with two successes behind an error, and the fallback at the end. -/
def fallbackLastOperation : Operation where
  method := .get
  responses := [
    ⟨.code 404, [("application/json", some (.string {} {}))]⟩,
    ⟨.code 201, [("application/json", some (.boolean {}))]⟩,
    ⟨.code 200, [("application/json", some (.array {} none {}))]⟩,
    ⟨.otherwise, [("application/json", some (.string {} {}))]⟩]

/-- The last but one of four responses is served. -/
theorem response_of_lowestSuccess_last :
    LowestSuccess fallbackLastOperation 200 ∧ ¬FallbackFirst fallbackLastOperation ∧
      ∃ plan, Plan.ofOperation "/pets" fallbackLastOperation = .ok plan ∧
        (plan.fill {} : Draw ScriptedWords Entry).Yields fun entry => ∃ prepared,
          entry.response = (200, some prepared) ∧ ∃ response ∈ fallbackLastOperation.responses,
            response.schemaForJson? = some prepared.schema ∧ response.key = .code 200 := by
  have json : Api.declaresJson "application/json" = true := by decide +kernel
  have lowest : LowestSuccess fallbackLastOperation 200 := by
    refine ⟨⟨_, List.mem_cons_of_mem _ (List.mem_cons_of_mem _ List.mem_cons_self), rfl, ?_⟩,
      by decide, ?_⟩
    · simp [Response.schemaForJson?, json]
    · intro response declared other key_eq success _
      exact success.1
  have ahead : ¬FallbackFirst fallbackLastOperation := by
    simp [FallbackFirst, Operation.firstUnder?, fallbackLastOperation, Response.schemaForJson?,
      ResponseKey.status, json]
  have compiles : ∃ plan, Plan.ofOperation "/pets" fallbackLastOperation = .ok plan := ⟨_, rfl⟩
  rcases compiles with ⟨plan, planned⟩
  refine ⟨lowest, ahead, plan, planned, ?_⟩
  refine (response_of_lowestSuccess {} lowest planned).imp fun entry facts => ?_
  rcases facts with ⟨prepared, served, _, response, declared, found, own, _⟩
  exact ⟨prepared, served, response, declared, found, own fun both => ahead both.2⟩

end ApiStub.Route
