import ApiStub.Api.Source
import ApiStub.Proofs.DistinctNames
import ApiStub.Proofs.Traversal

/-!
# The names of documents that are read

Both readers put the members of an object into place one by one, so a document that is read, from
JSON or from YAML, has no name twice in an object. Hence neither has any object schema of a
description that is loaded.
-/

namespace ApiStub

namespace Json

theorem DistinctNames.put {members : Members} (distinct : (object members).DistinctNames)
    {value : Json} (below : value.DistinctNames) (name : String) :
    (object (put name value members)).DistinctNames := by
  rw [distinctNames_object_iff] at distinct ⊢
  refine ⟨nodup_put distinct.1, fun entry mem => ?_⟩
  rcases mem_of_mem_put mem with rfl | kept
  · exact below
  · exact distinct.2 entry kept

theorem distinctNames_ofInteger (negative : Bool) (magnitude : Nat) :
    (ofInteger negative magnitude).DistinctNames := by
  unfold ofInteger
  split
  · split
    · nofun
    · split <;> nofun
  · split <;> nofun

theorem eq_of_finite? {number value : Json} (finite : finite? number = some value) :
    value = number := by
  unfold finite? at finite
  split at finite
  · split at finite
    · exact (Option.some.inj finite).symm
    · cases finite
  · exact (Option.some.inj finite).symm

theorem distinctNames_of_readMagnitude {negative : Bool} {input rest : List Char} {value : Json}
    (read : readMagnitude negative input = some (value, rest)) : value.DistinctNames := by
  simp only [readMagnitude, Option.bind_eq_bind] at read
  split at read
  · cases read
  · cases read
  · rcases Option.bind_eq_some_iff.mp read with ⟨⟨fraction, afterFraction⟩, _, read⟩
    rcases Option.bind_eq_some_iff.mp read with ⟨⟨exponent, afterExponent⟩, _, read⟩
    dsimp only at read
    split at read
    · rcases Option.bind_eq_some_iff.mp read with ⟨number, finite, read⟩
      cases read
      rw [eq_of_finite? finite]
      exact distinctNames_ofInteger _ _
    · rcases Option.bind_eq_some_iff.mp read with ⟨number, finite, read⟩
      cases read
      rw [eq_of_finite? finite]
      nofun

/-- What is read in so many steps has distinct names. -/
structure ReadsDistinct (fuel : Nat) : Prop where
  value : ∀ {depth input value rest}, readValue fuel depth input = some (value, rest) →
    value.DistinctNames
  items : ∀ {depth done input items rest}, (∀ item ∈ done, item.DistinctNames) →
    readItems fuel depth done input = some (items, rest) → ∀ item ∈ items, item.DistinctNames
  members : ∀ {depth done input members rest}, (object done).DistinctNames →
    readMembers fuel depth done input = some (members, rest) → (object members).DistinctNames

namespace ReadsDistinct

variable {fuel : Nat}

theorem readValue_succ (reads : ReadsDistinct fuel) {depth : Nat} {input rest : List Char}
    {value : Json} (read : readValue (fuel + 1) depth input = some (value, rest)) :
    value.DistinctNames := by
  unfold readValue at read
  split at read
  · cases read
  · rcases Option.map_eq_some_iff.mp read with ⟨⟨text, after⟩, _, same⟩
    cases same
    exact distinctNames_string text
  · split at read
    · cases read
    · split at read
      · cases read
        simp
      · rcases Option.map_eq_some_iff.mp read with ⟨⟨items, after⟩, readItems, same⟩
        cases same
        exact distinctNames_array_iff.mpr (reads.items (by simp) readItems)
  · split at read
    · cases read
    · split at read
      · cases read
        simp
      · rcases Option.map_eq_some_iff.mp read with ⟨⟨members, after⟩, readMembers, same⟩
        cases same
        exact reads.members (by simp) readMembers
  · rcases Option.map_eq_some_iff.mp read with ⟨after, _, same⟩
    cases same
    nofun
  · rcases Option.map_eq_some_iff.mp read with ⟨after, _, same⟩
    cases same
    nofun
  · rcases Option.map_eq_some_iff.mp read with ⟨after, _, same⟩
    cases same
    nofun
  · exact distinctNames_of_readMagnitude read
  · exact distinctNames_of_readMagnitude read

theorem readItems_succ (reads : ReadsDistinct fuel) {depth : Nat} {done items : List Json}
    {input rest : List Char} (earlier : ∀ item ∈ done, item.DistinctNames)
    (read : readItems (fuel + 1) depth done input = some (items, rest)) :
    ∀ item ∈ items, item.DistinctNames := by
  unfold readItems at read
  split at read
  · cases read
  · rename_i item after readItem
    have all := List.forall_mem_cons.mpr ⟨reads.value readItem, earlier⟩
    split at read
    · exact reads.items all read
    · cases read
      intro item mem
      exact all item (List.mem_reverse.mp mem)
    · cases read

theorem readMembers_succ (reads : ReadsDistinct fuel) {depth : Nat} {done members : Members}
    {input rest : List Char} (earlier : (object done).DistinctNames)
    (read : readMembers (fuel + 1) depth done input = some (members, rest)) :
    (object members).DistinctNames := by
  unfold readMembers at read
  split at read
  · split at read
    · cases read
    · split at read
      · split at read
        · cases read
        · rename_i value after readValue
          have all := earlier.put (reads.value readValue)
          dsimp only at read
          split at read
          · exact reads.members (all _) read
          · cases read
            exact all _
          · cases read
      · cases read
  · cases read

end ReadsDistinct

theorem readsDistinct (fuel : Nat) : ReadsDistinct fuel := by
  induction fuel with
  | zero => exact ⟨by simp [readValue], by simp [readItems], by simp [readMembers]⟩
  | succ fuel ih => exact ⟨ih.readValue_succ, ih.readItems_succ, ih.readMembers_succ⟩

theorem distinctNames_of_parse? {text : String} {document : Json}
    (parsed : parse? text = some document) : document.DistinctNames := by
  simp only [parse?] at parsed
  split at parsed
  · rename_i value rest read
    split at parsed
    · cases parsed
      exact (readsDistinct _).value read
    · cases parsed
  · cases parsed

end Json

namespace Yaml

open Json (DistinctNames)

theorem distinctNames_ofFloat (x : Option Float) : (ofFloat x).DistinctNames := by
  cases x <;> nofun

theorem distinctNames_of_readPlainScalar {text : String} {value : Json}
    (read : readPlainScalar text = some value) : value.DistinctNames := by
  unfold readPlainScalar at read
  split at read
  · cases read
    nofun
  · split at read
    · cases read
      nofun
    · split at read
      · cases read
        nofun
      · cases read
      · extract_lets unsigned at read
        split at read
        · cases read
          nofun
        · cases read
          cases float? text with
          | none => nofun
          | some x => exact distinctNames_ofFloat x

theorem distinctNames_of_readScalar {properties : Properties} {text : String} {plain : Bool}
    {value : Json} (read : readScalar properties text plain = some value) :
    value.DistinctNames := by
  unfold readScalar at read
  split at read
  · split at read
    · exact distinctNames_of_readPlainScalar read
    · cases read
      nofun
  · split at read
    · cases read
    · split at read
      · rcases Option.map_eq_some_iff.mp read with ⟨truth, _, rfl⟩
        nofun
      · split at read
        · split at read
          · cases read
            nofun
          · cases read
        · split at read
          · rcases Option.map_eq_some_iff.mp read with ⟨x, _, rfl⟩
            exact distinctNames_ofFloat x
          · split at read
            · split at read
              · cases read
                nofun
              · cases read
            · cases read
              nofun

section Visit

variable {visit : Node → Nat → Option (Json × Nat)} {after copies : Nat}
  (each : ∀ {node copies value after}, visit node copies = some (value, after) →
    value.DistinctNames)

include each

theorem distinctNames_of_jsonItems {nodes : List Node} {items : List Json}
    (read : jsonItems visit nodes copies = some (items, after)) :
    ∀ item ∈ items, item.DistinctNames := by
  induction nodes generalizing items copies with
  | nil =>
      cases read
      simp
  | cons node rest ih =>
      rcases Option.bind_eq_some_iff.mp read with ⟨⟨value, between⟩, first, read⟩
      rcases Option.map_eq_some_iff.mp read with ⟨⟨values, _⟩, others, same⟩
      cases same
      exact List.forall_mem_cons.mpr ⟨each first, ih others⟩

theorem distinctNames_of_jsonMembers {aliases : Aliases} {entries : List (Node × Node)}
    {done members : Members} (earlier : (Json.object done).DistinctNames)
    (read : jsonMembers aliases visit entries done copies = some (members, after)) :
    (Json.object members).DistinctNames := by
  induction entries generalizing done copies with
  | nil =>
      cases read
      exact earlier
  | cons entry rest ih =>
      rcases Option.bind_eq_some_iff.mp read with ⟨⟨name, between⟩, _, read⟩
      rcases Option.bind_eq_some_iff.mp read with ⟨⟨value, later⟩, first, read⟩
      exact ih (earlier.put (each first) name) read

end Visit

theorem distinctNames_of_jsonOf {aliases : Aliases} {fuel depth copies after : Nat} {node : Node}
    {value : Json} (read : jsonOf aliases fuel depth node copies = some (value, after)) :
    value.DistinctNames := by
  induction fuel generalizing depth node copies value after with
  | zero =>
      unfold jsonOf at read
      cases read
  | succ fuel ih =>
      unfold jsonOf at read
      split at read
      · rcases Option.bind_eq_some_iff.mp read with ⟨⟨target, between⟩, _, read⟩
        exact ih read
      · rcases Option.map_eq_some_iff.mp read with ⟨scalar, scalarRead, same⟩
        cases same
        exact distinctNames_of_readScalar scalarRead
      · split at read
        · cases read
        · rcases Option.map_eq_some_iff.mp read with ⟨⟨items, _⟩, read, same⟩
          cases same
          exact Json.distinctNames_array_iff.mpr (distinctNames_of_jsonItems ih read)
      · split at read
        · cases read
        · rcases Option.map_eq_some_iff.mp read with ⟨⟨members, _⟩, read, same⟩
          cases same
          exact distinctNames_of_jsonMembers ih (by simp) read
      · cases read

theorem distinctNames_of_parse? {text : String} {document : Json}
    (parsed : parse? text = some document) : document.DistinctNames := by
  rcases Option.bind_eq_some_iff.mp parsed with ⟨tokens, _, parsed⟩
  rcases Option.bind_eq_some_iff.mp parsed with ⟨node?, _, parsed⟩
  cases node? with
  | none =>
      cases parsed
      nofun
  | some node =>
      rcases Option.map_eq_some_iff.mp parsed with ⟨⟨value, copies⟩, read, rfl⟩
      exact distinctNames_of_jsonOf read

end Yaml

namespace Api

theorem distinctNames_of_readDocument {format : SourceFormat} {text : String} {document : Json}
    (read : readDocument format text = .ok document) : document.DistinctNames := by
  cases format with
  | json =>
      cases parsed : Json.parse? text with
      | none => simp [readDocument, parsed] at read
      | some value =>
          obtain rfl : value = document := by simpa [readDocument, parsed] using read
          exact Json.distinctNames_of_parse? parsed
  | yaml =>
      cases parsed : Yaml.parse? text with
      | none => simp [readDocument, parsed] at read
      | some value =>
          obtain rfl : value = document := by simpa [readDocument, parsed] using read
          exact Yaml.distinctNames_of_parse? parsed

/-- The response schemas of a description that is loaded have distinct names, as the drawing of
values asks for. -/
theorem distinctNames_of_load {requirements : Requirements} {path : String}
    {item : Option Files.Item} {description : Description} {schema : Schema}
    (loaded : load requirements path item = .ok description)
    (mem : schema ∈ description.schemas) : schema.DistinctNames := by
  simp only [load] at loaded
  rcases bind_eq_ok_iff.mp loaded with ⟨item, _, loaded⟩
  rcases bind_eq_ok_iff.mp loaded with ⟨format, _, loaded⟩
  rcases bind_eq_ok_iff.mp loaded with ⟨text, _, loaded⟩
  rcases bind_eq_ok_iff.mp loaded with ⟨document, read, loaded⟩
  rcases bind_eq_ok_iff.mp loaded with ⟨_, _, loaded⟩
  cases loaded
  exact distinctNames_of_mem_schemas (distinctNames_of_readDocument read) mem

end Api

end ApiStub
