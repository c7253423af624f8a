import ApiStub.Api.Document
import ApiStub.Proofs.DocumentParts
import ApiStub.Proofs.ExpansionRecursion

/-!
# The bounds of an expansion

Whatever its references are, a document is expanded within bounds. Every node of the tree that is no
placeholder is the root of a visit within the budget, and every node at all is the root of a visit;
`Charge` keeps both accounts along a sequence of visits, together with the number of visits that the
ones within the budget can ask for. `Branch` counts the references that lead to a place. What a
reference resolves to matters only if fewer than the allowance lead to it.
-/

namespace ApiStub.Api

open Schema

/-- The accounts of visits to so many places: what was spent before and after them, and the schemas
that they gave. Only the visits within the budget give nodes that are no placeholder, and only they
ask for further visits, at most `breadth` each. -/
structure Charge (breadth before places after : Nat) (schemas : List Schema) : Prop where
  marked : countAll (fun node => !node.isPlaceholder) schemas + min before nodeBudget ≤
    min after nodeBudget
  nodes : countAll (fun _ => true) schemas + before ≤ after
  visits : after + breadth * min before nodeBudget ≤
    before + places + breadth * min after nodeBudget

namespace Charge

variable {breadth before places after : Nat} {schemas : List Schema}

theorem nil (breadth before : Nat) : Charge breadth before 0 before [] where
  marked := by simp
  nodes := by simp
  visits := by omega

theorem cons {schema : Schema} {middle : Nat} (first : Charge breadth before 1 middle [schema])
    (rest : Charge breadth middle places after schemas) :
    Charge breadth before (places + 1) after (schema :: schemas) where
  marked := by
    have := first.marked
    have := rest.marked
    simp only [countAll_cons, countAll_nil] at *
    omega
  nodes := by
    have := first.nodes
    have := rest.nodes
    simp only [countAll_cons, countAll_nil] at *
    omega
  visits := by
    have := first.visits
    have := rest.visits
    omega

/-- A visit that asks for nothing. -/
theorem shut (breadth used : Nat) : Charge breadth used 1 (used + 1) [.placeholder] where
  marked := by
    simp [placeholder, count, countProperties, isPlaceholder]
  nodes := by
    simp [placeholder, count, countProperties]
    omega
  visits := by
    have : breadth * min used nodeBudget ≤ breadth * min (used + 1) nodeBudget :=
      Nat.mul_le_mul_left breadth (by omega)
    omega

/-- A visit within the budget pays for the root of what is put together and for its places. -/
theorem enclose {assembled : Schema} (within : before < nodeBudget) (narrow : places ≤ breadth)
    (below : Charge breadth (before + 1) places after schemas)
    (bound : ∀ p, assembled.countBelow p ≤ countAll p schemas) :
    Charge breadth before 1 after [assembled] where
  marked := by
    have := below.marked
    have := bound fun node => !node.isPlaceholder
    have := assembled.count_le fun node => !node.isPlaceholder
    simp only [countAll_cons, countAll_nil]
    omega
  nodes := by
    have := below.nodes
    have := bound fun _ => true
    have := assembled.count_le fun _ => true
    simp only [countAll_cons, countAll_nil]
    omega
  visits := by
    have := below.visits
    have spent : min (before + 1) nodeBudget = min before nodeBudget + 1 := by omega
    rw [spent, Nat.mul_add, Nat.mul_one] at this
    omega

end Charge

theorem charge_visitAll {visit : Json → Nat → Expansion Schema} {allowance breadth : Nat}
    {places : List Json} (used : Nat)
    (each : ∀ place ∈ places, ∀ used, Charge breadth used 1 (visit place allowance used).2
      [(visit place allowance used).1]) :
    Charge breadth used places.length (visitAll visit allowance places used).2
      (visitAll visit allowance places used).1 := by
  induction places generalizing used with
  | nil => exact .nil breadth used
  | cons place rest ih =>
      rcases List.forall_mem_cons.mp each with ⟨first, others⟩
      exact (first used).cons (ih _ others)

/-- The accounts of one visit, whatever was spent before it. -/
theorem charge_expandFrom {root value : Json} (held : root.Holds value)
    (fuel allowance used : Nat) :
    Charge (breadth root) used 1 (expandFrom root fuel value allowance used).2
      [(expandFrom root fuel value allowance used).1] := by
  induction fuel generalizing value allowance used with
  | zero => exact .shut _ used
  | succ fuel ih =>
      rcases shut_or_open root value allowance used with shut | ⟨within, members, rest, followed⟩
      · rw [expandFrom_of_shut _ shut]
        exact .shut _ used
      · have target := holds_of_follow? held followed
        rcases exists_assembly members with ⟨assemble, assembled, bound⟩
        rw [expandFrom_succ, visitOnce_of_open within followed, assembled]
        refine .enclose within
          (Nat.le_trans (length_visited_le members) (width_le_breadth target)) ?_ (bound · _)
        refine charge_visitAll (used + 1) fun place place_mem used => ?_
        exact ih (target.trans (holds_of_visited place_mem)) rest used

/-- So many references lead from a value to a place, on one branch of what can be visited. -/
inductive Branch (root : Json) : Json → Nat → Json → Prop where
  | here (value : Json) : Branch root value 0 value
  | reference {value next place : Json} {reference : String} {count : Nat}
      (refers : reference? value = some reference) (resolved : resolve? root reference = some next)
      (rest : Branch root next count place) : Branch root value (count + 1) place
  | child {members : Members} {child place : Json} {count : Nat}
      (plain : reference? (.object members) = none) (mem : child ∈ visited members)
      (rest : Branch root child count place) : Branch root (.object members) count place

/-- Two documents resolve alike what is met on a branch after fewer references than allowed. -/
def ResolvesAlike (root other value : Json) (allowance : Nat) : Prop :=
  ∀ count place reference, Branch root value count place → count < allowance →
    reference? place = some reference → resolve? other reference = resolve? root reference

namespace ResolvesAlike

variable {root other value : Json} {allowance : Nat}

theorem next {target : Json} {reference : String} (refers : reference? value = some reference)
    (resolved : resolve? root reference = some target)
    (alike : ResolvesAlike root other value (allowance + 1)) :
    ResolvesAlike root other target allowance := by
  intro count place reference branch fewer
  exact alike (count + 1) place reference (.reference refers resolved branch) (by omega)

theorem child {members : Members} {child : Json} (plain : reference? (.object members) = none)
    (mem : child ∈ visited members)
    (alike : ResolvesAlike root other (.object members) allowance) :
    ResolvesAlike root other child allowance := by
  intro count place reference branch
  exact alike count place reference (.child plain mem branch)

theorem follow?_eq (alike : ResolvesAlike root other value allowance) :
    follow? other allowance value = follow? root allowance value := by
  induction allowance generalizing value with
  | zero =>
      unfold follow?
      rfl
  | succ allowance ih =>
      unfold follow?
      cases refers : reference? value with
      | none => rfl
      | some reference =>
          dsimp only
          rw [alike 0 value reference (.here value) (Nat.succ_pos allowance) refers]
          cases resolved : resolve? root reference with
          | none => rfl
          | some target => exact ih (alike.next refers resolved)

theorem of_follow? {target : Json} {left : Nat}
    (followed : follow? root allowance value = some (target, left))
    (alike : ResolvesAlike root other value allowance) :
    ResolvesAlike root other target left := by
  have follows := Follows.follow?_eq_some_iff.mp followed
  clear followed
  induction follows with
  | stop _ => exact alike
  | step refers resolved _ ih => exact ih (alike.next refers resolved)

/-- The expansion reads nothing else of the document. -/
theorem expandFrom_eq (alike : ResolvesAlike root other value allowance) (fuel : Nat) :
    expandFrom other fuel value allowance = expandFrom root fuel value allowance := by
  induction fuel generalizing value allowance with
  | zero => rfl
  | succ fuel ih =>
      funext used
      rw [expandFrom_succ, expandFrom_succ]
      rcases shut_or_open root value allowance used with shut | ⟨within, members, rest, followed⟩
      · have otherShut : Shut other value allowance used := by
          rwa [Shut, alike.follow?_eq]
        rw [visitOnce_of_shut shut, visitOnce_of_shut otherShut]
      · rw [visitOnce_of_open within followed,
          visitOnce_of_open within (alike.follow?_eq.trans followed)]
        apply expandMembers_congr
        · intro place used
          exact Nat.le_of_lt (lt_expandFrom root place fuel rest used)
        · intro place place_mem used _
          have plain := (reference?_of_follow? followed).1
          rw [ih ((alike.of_follow? followed).child plain place_mem)]

end ResolvesAlike

/-- Expands a response schema when others have been expanded: the count starts anew. -/
def expandNext (root value : Json) (allowance : Nat) : Expansion Schema := do
  set 0
  expandFrom root nodeBudget value allowance

/-- The bounds that an expansion keeps, whatever was expanded before it. -/
structure WithinBounds (root value : Json) (allowance : Nat) : Prop where
  /-- What was spent on other schemas is of no matter. -/
  anew : ∀ before, (expandNext root value allowance before).1 = expand root value allowance
  /-- No more nodes than the budget are anything but placeholders. -/
  marked : (expand root value allowance).count (fun node => !node.isPlaceholder) ≤ nodeBudget
  nodes : (expand root value allowance).count (fun _ => true) ≤ 1 + nodeBudget * breadth root
  visits : ∀ before, (expandNext root value allowance before).2 ≤ 1 + nodeBudget * breadth root
  /-- What a reference resolves to is never asked for behind as many references as allowed. -/
  references : ∀ other, ResolvesAlike root other value allowance →
    expand other value allowance = expand root value allowance

theorem withinBounds {root value : Json} (held : root.Holds value) (allowance : Nat) :
    WithinBounds root value allowance := by
  have charge := charge_expandFrom held nodeBudget allowance 0
  have marked := charge.marked
  have nodes := charge.nodes
  have visits := charge.visits
  simp only [countAll_cons, countAll_nil] at marked nodes
  have spent : breadth root * min (expandFrom root nodeBudget value allowance 0).2 nodeBudget ≤
      nodeBudget * breadth root := by
    rw [Nat.mul_comm nodeBudget]
    exact Nat.mul_le_mul_left _ (Nat.min_le_right _ _)
  rw [Nat.zero_min, Nat.mul_zero] at visits
  refine ⟨fun _ => rfl, ?_, ?_, fun before => ?_, fun other alike => ?_⟩
  · simp only [expand]
    omega
  · simp only [expand]
    omega
  · change (expandFrom root nodeBudget value allowance 0).2 ≤ _
    omega
  · simp only [expand, alike.expandFrom_eq]

/-- A schema is the expansion of a part of the document, with no more than the allowance. -/
def Expands (document : Json) (allowance : Nat) (schema : Schema) : Prop :=
  ∃ value left, document.Holds value ∧ left ≤ allowance ∧ schema = expand document value left

theorem Expands.mono {document : Json} {left allowance : Nat} {schema : Schema}
    (expands : Expands document left schema) (within : left ≤ allowance) :
    Expands document allowance schema := by
  rcases expands with ⟨value, rest, held, rest_le, equal⟩
  exact ⟨value, rest, held, Nat.le_trans rest_le within, equal⟩

section Schemas

variable {document value : Json} {allowance : Nat} {schema : Schema}

theorem expands_of_response? {key : String} {response : Response} {mediaType : String}
    (held : document.Holds value) (read : response? document allowance key value = some response)
    (mem : (mediaType, some schema) ∈ response.content) : Expands document allowance schema := by
  simp only [response?, Option.bind_eq_bind, Option.bind_eq_some_iff, Option.some.injEq] at read
  rcases read with ⟨_, _, ⟨target, left⟩, followed, rfl⟩
  have target_held := holds_of_follow? held followed
  rcases List.mem_map.mp mem with ⟨⟨name, media⟩, media_mem, equal⟩
  rcases Option.map_eq_some_iff.mp (congrArg Prod.snd equal) with ⟨place, found, rfl⟩
  cases declared : (target.get? "content").bind Json.members? with
  | none => simp [declared] at media_mem
  | some content =>
      rcases Option.bind_eq_some_iff.mp declared with ⟨under, got, isObject⟩
      rw [declared] at media_mem
      have media_held := (Json.holds_of_get? got).trans
        (Json.holds_of_members? isObject media_mem)
      exact ⟨place, left, target_held.trans (media_held.trans (Json.holds_of_get? found)),
        (reference?_of_follow? followed).2, rfl⟩

theorem expands_of_operation? {shared : List Parameter} {key : String} {operation : Operation}
    {response : Response} {mediaType : String} (held : document.Holds value)
    (read : operation? document allowance shared key value = some operation)
    (response_mem : response ∈ operation.responses)
    (mem : (mediaType, some schema) ∈ response.content) : Expands document allowance schema := by
  simp only [operation?, Option.bind_eq_bind, Option.bind_eq_some_iff, Option.some.injEq] at read
  rcases read with ⟨members, isObject, rfl⟩
  rcases List.mem_filterMap.mp response_mem with ⟨entry, entry_mem, responseRead⟩
  cases declared : (Json.find? members "responses").bind Json.members? with
  | none => simp [declared] at entry_mem
  | some responses =>
      rcases Option.bind_eq_some_iff.mp declared with ⟨under, found, isMembers⟩
      rw [declared] at entry_mem
      have under_held := Json.holds_of_members? isObject (Json.mem_of_find? found)
      exact expands_of_response? (held.trans (under_held.trans
        (Json.holds_of_members? isMembers entry_mem))) responseRead mem

theorem expands_of_path? {template : String} {path : Path} {operation : Operation}
    {response : Response} {mediaType : String} (held : document.Holds value)
    (read : path? document allowance template value = some path)
    (operation_mem : operation ∈ path.operations) (response_mem : response ∈ operation.responses)
    (mem : (mediaType, some schema) ∈ response.content) : Expands document allowance schema := by
  simp only [path?, Option.bind_eq_bind, Option.bind_eq_some_iff, Option.some.injEq] at read
  rcases read with ⟨⟨target, left⟩, followed, members, isObject, rfl⟩
  rcases List.mem_filterMap.mp operation_mem with ⟨entry, entry_mem, operationRead⟩
  have entry_held := Json.holds_of_members? isObject (List.mem_filter.mp entry_mem).1
  have expands := expands_of_operation? ((holds_of_follow? held followed).trans entry_held)
    operationRead response_mem mem
  exact expands.mono (reference?_of_follow? followed).2

end Schemas

/-- The response schemas of a description. -/
def Description.schemas (description : Description) : List Schema :=
  description.paths.flatMap fun path => path.operations.flatMap fun operation =>
    operation.responses.flatMap fun response => response.content.filterMap (·.2)

theorem expands_of_mem_schemas {document : Json} {allowance : Nat} {schema : Schema}
    (mem : schema ∈ (Description.ofDocument document allowance).schemas) :
    Expands document allowance schema := by
  simp only [Description.schemas, List.mem_flatMap, List.mem_filterMap] at mem
  rcases mem with ⟨path, path_mem, operation, operation_mem, response, response_mem,
    ⟨mediaType, _⟩, media_mem, rfl⟩
  rcases List.mem_filterMap.mp path_mem with ⟨entry, entry_mem, read⟩
  cases declared : (document.get? "paths").bind Json.members? with
  | none => simp [declared] at entry_mem
  | some paths =>
      rcases Option.bind_eq_some_iff.mp declared with ⟨under, got, isObject⟩
      rw [declared] at entry_mem
      have entry_held := (Json.holds_of_get? got).trans (Json.holds_of_members? isObject entry_mem)
      exact expands_of_path? entry_held read operation_mem response_mem media_mem

/-- However its references run, every part of a document is expanded within bounds: the recursion
has one solution, which is the one computed, and the tree is bounded by the budget and the breadth
of the document. The response schemas of a description are such trees. -/
theorem expansion_bounded (document : Json) (allowance : Nat) :
    (∀ visit, (∀ value allowance,
        visit value allowance = visitOnce document visit value allowance) ↔
      visit = expandFrom document nodeBudget) ∧
    (∀ value, document.Holds value → WithinBounds document value allowance) ∧
    ∀ schema ∈ (Description.ofDocument document allowance).schemas,
      ∃ value left, document.Holds value ∧ left ≤ allowance ∧
        WithinBounds document value left ∧ schema = expand document value left := by
  refine ⟨fun visit => solves_iff, fun value held => withinBounds held allowance, ?_⟩
  intro schema mem
  rcases expands_of_mem_schemas mem with ⟨value, left, held, left_le, equal⟩
  exact ⟨value, left, held, left_le, withinBounds held left, equal⟩

/-- A schema that refers to itself from two properties and from a branch. -/
def fanOutDocument : Json :=
  .object [("Tree", .object [
    ("allOf", .array [.object [("$ref", .string "#/Tree")]]),
    ("properties", .object [
      ("left", .object [("$ref", .string "#/Tree")]),
      ("right", .object [("$ref", .string "#/Tree")])])])]

/-- Three visits below every visit, as deep as references may be followed. -/
theorem expansion_bounded_fanOut :
    fanOutDocument.Holds (.object [("$ref", .string "#/Tree")]) ∧
      (expand fanOutDocument (.object [("$ref", .string "#/Tree")]) 1000).count
        (fun node => !node.isPlaceholder) ≤ 10000 ∧
      (expand fanOutDocument (.object [("$ref", .string "#/Tree")]) 1000).count (fun _ => true) ≤
        40001 := by
  have held : fanOutDocument.Holds (.object [("$ref", .string "#/Tree")]) :=
    .member (.head _) (.member (.head _) (.item (.head _) (.whole _)))
  have bounds := (expansion_bounded fanOutDocument 1000).2.1 _ held
  have breadth_eq : breadth fanOutDocument = 4 := by decide
  refine ⟨held, bounds.marked, ?_⟩
  simpa [breadth_eq, nodeBudget] using bounds.nodes

end ApiStub.Api
