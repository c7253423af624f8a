import ApiStub.Api.Document
import ApiStub.Proofs.TemplateSplit

/-!
# The parameter that a slot obeys

A path declares parameters for all of its operations, and each operation declares its own. The two
lists are merged by name and location: an operation's parameter takes the place of the path's one,
or stands at the end when the path has none.

A slot takes digits only when the effective parameter of its name is an integer, and that is the
last one that the operation declares, or else the first one of the path. What a slot takes is stated
by what it captures: of a template with a slot for a token some path is captured with a letter in
that slot.
-/

namespace ApiStub

namespace Api

/-- What two parameters have in common when one overrides the other. -/
def Parameter.key (parameter : Parameter) : String × ParameterLocation :=
  (parameter.name, parameter.location)

/-- The first parameter of a key. -/
def firstOf? (key : String × ParameterLocation) (parameters : List Parameter) : Option Parameter :=
  parameters.find? (·.key = key)

/-- The last parameter of a key. -/
def lastOf? (key : String × ParameterLocation) (parameters : List Parameter) : Option Parameter :=
  firstOf? key parameters.reverse

/-- The path parameter of a name that counts for an operation: its own last one, or else the first
one of its path. -/
def effective? (shared own : List Parameter) (name : String) : Option Parameter :=
  (lastOf? (name, .path) own).or (firstOf? (name, .path) shared)

/-- The keys that an operation adds to those of its path, where each comes first. -/
def addedKeys (shared own : List Parameter) : List (String × ParameterLocation) :=
  ((own.map Parameter.key).filter (· ∉ shared.map Parameter.key)).eraseDups

/-- The list repeats no key, has the path's parameters in their places, overridden by the last one
of an operation, and after them the operation's other ones. -/
structure MergedInPlace (merged shared own : List Parameter) : Prop where
  distinct : (merged.map Parameter.key).Nodup
  keys : merged.map Parameter.key = shared.map Parameter.key ++ addedKeys shared own
  values : merged = (shared.map fun parameter => (lastOf? parameter.key own).getD parameter) ++
    (addedKeys shared own).filterMap (lastOf? · own)

section Merging

variable {parameter : Parameter} {parameters shared own : List Parameter}
  {key : String × ParameterLocation}

theorem Parameter.same_iff {first second : Parameter} :
    first.same second = true ↔ first.key = second.key := by
  simp [same, Parameter.key]

theorem firstOf?_cons : firstOf? key (parameter :: parameters) =
    if parameter.key = key then some parameter else firstOf? key parameters := by
  by_cases same : parameter.key = key
  · simp [firstOf?, same]
  · simp [firstOf?, same]

theorem firstOf?_of_not_mem (absent : key ∉ parameters.map Parameter.key) :
    firstOf? key parameters = none := by
  rw [firstOf?, List.find?_eq_none]
  intro parameter mem same
  exact absent (List.mem_map.mpr ⟨parameter, mem, by simpa using same⟩)

theorem lastOf?_cons : lastOf? key (parameter :: parameters) =
    (lastOf? key parameters).or (if parameter.key = key then some parameter else none) := by
  rw [lastOf?, List.reverse_cons, firstOf?, List.find?_append]
  exact congrArg _ firstOf?_cons

theorem firstOf?_overrideParameter : firstOf? key (overrideParameter parameter parameters) =
    if parameter.key = key then some parameter else firstOf? key parameters := by
  induction parameters with
  | nil => exact firstOf?_cons
  | cons first rest ih =>
      rw [overrideParameter]
      by_cases same : first.key = parameter.key
      · rw [if_pos (Parameter.same_iff.mpr same), firstOf?_cons, firstOf?_cons, same]
        by_cases here : parameter.key = key
        · simp [here]
        · simp [here]
      · rw [if_neg (mt Parameter.same_iff.mp same), firstOf?_cons, firstOf?_cons, ih]
        by_cases here : parameter.key = key
        · simp [here, here ▸ same]
        · simp [here]

theorem keys_overrideParameter : (overrideParameter parameter parameters).map Parameter.key =
    if parameter.key ∈ parameters.map Parameter.key then parameters.map Parameter.key
    else parameters.map Parameter.key ++ [parameter.key] := by
  induction parameters with
  | nil => rfl
  | cons first rest ih =>
      rw [overrideParameter]
      by_cases same : first.key = parameter.key
      · simp [Parameter.same_iff.mpr same, same]
      · rw [if_neg (mt Parameter.same_iff.mp same), List.map_cons, List.map_cons, ih]
        by_cases later : parameter.key ∈ rest.map Parameter.key
        · simp [later]
        · simp [later, Ne.symm same]

theorem nodup_overrideParameter (distinct : (parameters.map Parameter.key).Nodup) :
    ((overrideParameter parameter parameters).map Parameter.key).Nodup := by
  rw [keys_overrideParameter]
  split
  · exact distinct
  · rename_i fresh
    refine List.nodup_append.mpr ⟨distinct, by simp, ?_⟩
    intro key mem other isLast same
    rw [List.mem_singleton] at isLast
    apply fresh
    rwa [← isLast, ← same]

/-- The last own parameter of a key is found, and else what the path has. -/
theorem firstOf?_mergeParameters :
    firstOf? key (mergeParameters shared own) = (lastOf? key own).or (firstOf? key shared) := by
  induction own generalizing shared with
  | nil => rfl
  | cons first rest ih =>
      change firstOf? key (mergeParameters (overrideParameter first shared) rest) = _
      rw [ih, firstOf?_overrideParameter, lastOf?_cons, Option.or_assoc]
      by_cases here : first.key = key
      · simp [here]
      · simp [here]

theorem keys_mergeParameters : (mergeParameters shared own).map Parameter.key =
    shared.map Parameter.key ++ addedKeys shared own := by
  induction own generalizing shared with
  | nil => simp [mergeParameters, addedKeys]
  | cons first rest ih =>
      change (mergeParameters (overrideParameter first shared) rest).map Parameter.key = _
      rw [ih, addedKeys, addedKeys, keys_overrideParameter]
      by_cases before : first.key ∈ shared.map Parameter.key
      · rw [if_pos before, List.map_cons, List.filter_cons_of_neg (by simpa using before)]
      · -- What comes after is new when it is neither the path's nor this one.
        rw [if_neg before, List.map_cons, List.filter_cons_of_pos (by simpa using before),
          List.eraseDups_cons, List.filter_filter, List.append_assoc, List.singleton_append]
        congr 3
        refine List.filter_congr fun other _ => ?_
        simp [beq_eq_decide, Bool.and_comm]

theorem nodup_mergeParameters (distinct : (shared.map Parameter.key).Nodup) :
    ((mergeParameters shared own).map Parameter.key).Nodup := by
  induction own generalizing shared with
  | nil => exact distinct
  | cons first rest ih => exact ih (nodup_overrideParameter distinct)

theorem firstOf?_of_mem (distinct : (parameters.map Parameter.key).Nodup)
    (mem : parameter ∈ parameters) : firstOf? parameter.key parameters = some parameter := by
  induction parameters with
  | nil => simp at mem
  | cons first rest ih =>
      rcases List.nodup_cons.mp distinct with ⟨fresh, others⟩
      rcases List.mem_cons.mp mem with rfl | later
      · simp [firstOf?_cons]
      · have differs : first.key ≠ parameter.key := fun same =>
          fresh (same ▸ List.mem_map_of_mem later)
        rw [firstOf?_cons, if_neg differs, ih others later]

theorem filterMap_firstOf? (distinct : (parameters.map Parameter.key).Nodup) :
    (parameters.map Parameter.key).filterMap (firstOf? · parameters) = parameters := by
  rw [List.filterMap_map]
  refine (List.filterMap_congr fun parameter mem => ?_).trans List.filterMap_some
  exact firstOf?_of_mem distinct mem

theorem mergedInPlace_mergeParameters (distinct : (shared.map Parameter.key).Nodup) :
    MergedInPlace (mergeParameters shared own) shared own where
  distinct := nodup_mergeParameters distinct
  keys := keys_mergeParameters
  values := by
    -- Distinct keys leave nothing open: the list is what is found under its keys in turn.
    have once : ((mergeParameters shared own).map Parameter.key).Nodup :=
      nodup_mergeParameters distinct
    rw [← filterMap_firstOf? once, keys_mergeParameters, List.filterMap_append, List.filterMap_map]
    congr 1
    · rw [← List.filterMap_eq_map]
      refine List.filterMap_congr fun parameter mem => ?_
      simp only [Function.comp_apply]
      rw [firstOf?_mergeParameters, firstOf?_of_mem distinct mem]
      cases lastOf? parameter.key own with
      | none => rfl
      | some last => rfl
    · refine List.filterMap_congr fun key mem => ?_
      have absent : key ∉ shared.map Parameter.key := by
        rw [addedKeys, List.mem_eraseDups, List.mem_filter] at mem
        simpa using mem.2
      rw [firstOf?_mergeParameters, firstOf?_of_not_mem absent, Option.or_none]

theorem declaredParameter?_eq {operation : Operation}
    (merged : operation.parameters = mergeParameters shared own) (name : String) :
    operation.declaredParameter? name = effective? shared own name := by
  rw [effective?, ← firstOf?_mergeParameters, ← merged, Operation.declaredParameter?, firstOf?]
  congr 1
  funext parameter
  simp [Parameter.key, Bool.and_comm, beq_eq_decide]

/-- The parameters in a path. -/
def inPath (parameters : List Parameter) : List Parameter :=
  parameters.filter (·.location = .path)

theorem firstOf?_inPath {name : String} :
    firstOf? (name, .path) (inPath parameters) = firstOf? (name, .path) parameters := by
  rw [firstOf?, inPath, List.find?_filter, firstOf?]
  congr 1
  funext parameter
  simp [Parameter.key]

theorem effective?_inPath {name : String} :
    effective? (inPath shared) (inPath own) name = effective? shared own name := by
  have reversed : (inPath own).reverse = inPath own.reverse := by simp [inPath]
  rw [effective?, lastOf?, reversed, firstOf?_inPath, firstOf?_inPath, effective?, lastOf?]

theorem declaredParameter?_eq_of_inPath {operation other : Operation}
    {shared own shared' own' : List Parameter}
    (merged : operation.parameters = mergeParameters shared own)
    (mergedOther : other.parameters = mergeParameters shared' own')
    (same : inPath shared' = inPath shared) (sameOwn : inPath own' = inPath own) :
    other.declaredParameter? = operation.declaredParameter? := by
  funext name
  rw [declaredParameter?_eq merged, declaredParameter?_eq mergedOther, ← effective?_inPath, same,
    sameOwn, effective?_inPath]

end Merging

section Reading

variable {root value : Json} {allowance : Nat}

/-- The operations that a path declares: the methods with an object under them. -/
def declaredOperations (members : Members) : List (String × Members) :=
  (members.filter fun member => methodKeys.contains member.1).filterMap fun member =>
    member.2.members?.map (member.1, ·)

/-- The usable parameters that are listed under an object. -/
def listedParameters (root : Json) (allowance : Nat) (members : Members) : List Parameter :=
  parameters root allowance (Json.find? members "parameters")

/-- An operation keeps the method it is declared under, and merges the parameters of its path with
its own. -/
structure KeepsParameters (root : Json) (allowance : Nat) (shared : List Parameter)
    (declared : String × Members) (operation : Operation) : Prop where
  method : operation.method = ⟨declared.1.toUpper⟩
  parameters : operation.parameters =
    mergeParameters shared (listedParameters root allowance declared.2)

theorem forall₂_operation? (shared : List Parameter) (entries : Members) :
    List.Forall₂ (KeepsParameters root allowance shared)
      (entries.filterMap fun entry => entry.2.members?.map (entry.1, ·))
      (entries.filterMap fun entry => operation? root allowance shared entry.1 entry.2) := by
  induction entries with
  | nil => exact .nil
  | cons entry rest ih =>
      rcases entry with ⟨key, value⟩
      cases value with
      | object members => exact .cons ⟨rfl, rfl⟩ ih
      | _ => exact ih

theorem operations_of_path? {template : String} {path : Path}
    (read : path? root allowance template value = some path) :
    path.template = template ∧ ∃ members left,
      follow? root allowance value = some (.object members, left) ∧
        List.Forall₂ (KeepsParameters root left (listedParameters root left members))
          (declaredOperations members) path.operations := by
  rcases Option.bind_eq_some_iff.mp read with ⟨⟨target, left⟩, followed, read⟩
  rcases Option.bind_eq_some_iff.mp read with ⟨members, isObject, read⟩
  cases target with
  | object held =>
      cases isObject
      cases read
      exact ⟨rfl, members, left, followed, forall₂_operation? _ _⟩
  | _ => cases isObject

end Reading

end Api

namespace Route

open Api

/-- Of a path that fits, every slot of this name captures only digits. -/
def Template.CapturesOnlyDigits (template : Template) (name : String) : Prop :=
  ∀ path pieces, template.pieces? path = some pieces →
    ∀ piece, (name, piece) ∈ template.names.zip pieces → ∀ c ∈ piece, '0' ≤ c ∧ c ≤ '9'

namespace Template

/-- A character that a slot of this kind takes, which is no digit when the kind allows it. -/
def sample : SlotKind → Char
  | .digits => '0'
  | .token => 'a'

theorem admits_sample (kind : SlotKind) : kind.admits (sample kind) = true := by
  cases kind <;> rfl

/-- The pieces of one character each. -/
def samples (slots : List Slot) : List (List Char) :=
  slots.map fun slot => [sample slot.kind]

theorem takes_samples (slots : List Slot) : List.Forall₂ Slot.Takes slots (samples slots) := by
  rw [samples, List.forall₂_map_right_iff, List.forall₂_same]
  intro slot _
  exact Slot.takes_iff.mpr ⟨by simp, by simp [admits_sample]⟩

/-- No pieces fill less of a path than one character each. -/
theorem length_fillSlots_samples_le {slots : List Slot} {pieces : List (List Char)}
    (takes : List.Forall₂ Slot.Takes slots pieces) :
    (fillSlots slots (samples slots)).length ≤ (fillSlots slots pieces).length := by
  induction takes with
  | nil => exact Nat.le_refl _
  | @cons slot piece slots pieces slotTakes _ ih =>
      have positive := List.length_pos_iff.mpr slotTakes.1
      simp only [samples, List.map_cons, fillSlots, List.length_append, List.length_singleton]
      simp only [samples] at ih
      omega

/-- A path with one character in each slot splits in no other way. -/
theorem eq_samples {slots : List Slot} {pieces : List (List Char)}
    (takes : List.Forall₂ Slot.Takes slots pieces)
    (same : fillSlots slots pieces = fillSlots slots (samples slots)) :
    pieces = samples slots := by
  induction takes with
  | nil => rfl
  | @cons slot piece slots pieces slotTakes others ih =>
      have least := length_fillSlots_samples_le others
      have lengths := congrArg List.length same
      rcases List.exists_cons_of_ne_nil slotTakes.1 with ⟨c, rest, rfl⟩
      simp only [samples, List.map_cons, fillSlots, List.length_append, List.length_cons,
        List.length_nil] at lengths least
      -- What the first piece has beyond one character, the others would have to lack.
      have empty : rest = [] := List.eq_nil_of_length_eq_zero (by omega)
      subst empty
      simp only [samples, List.map_cons, fillSlots, List.cons_append, List.nil_append,
        List.cons.injEq, List.append_cancel_left_eq] at same
      rw [ih same.2, same.1]
      rfl

theorem pieces?_samples (template : Template) :
    template.pieces? (template.fill (samples template.slots)) = some (samples template.slots) := by
  have split : template.Splits (template.fill (samples template.slots)) (samples template.slots) :=
    ⟨takes_samples _, rfl⟩
  rcases pieces?_of_splits split with ⟨pieces, search, -⟩
  have found := splits_of_pieces? search
  have filled := List.append_cancel_left found.filled
  rw [search, eq_samples found.takes filled.symm]

theorem capturesOnlyDigits_iff {template : Template} {name : String} :
    template.CapturesOnlyDigits name ↔
      ∀ slot ∈ template.slots, String.ofList slot.name = name → slot.kind = .digits := by
  constructor
  · intro captures slot slot_mem same
    have piece_mem : (name, [sample slot.kind]) ∈
        template.names.zip (samples template.slots) := by
      rw [names, samples, List.zip_map', ← same]
      exact List.mem_map_of_mem slot_mem
    have digit := captures _ _ (pieces?_samples template) _ piece_mem _ (List.mem_singleton_self _)
    cases kind : slot.kind with
    | digits => rfl
    | token => exact absurd digit (by rw [kind]; decide)
  · intro digits path pieces search piece piece_mem
    have takes := (splits_of_pieces? search).takes
    rw [names, List.zip_map_left, List.mem_map] at piece_mem
    rcases piece_mem with ⟨⟨slot, taken⟩, pair_mem, same⟩
    cases same
    have slotTakes := (List.forall₂_iff_zip.mp takes).2 pair_mem
    have kind := digits slot (List.of_mem_zip pair_mem).1 rfl
    rw [Slot.Takes, kind] at slotTakes
    exact slotTakes.2

theorem capturesOnlyDigits_of_compile {text : String} {operation : Operation} {template : Template}
    (compiled : compile text operation = .ok template) {name : String}
    (named : name ∈ template.names) :
    template.CapturesOnlyDigits name ↔ slotKind operation name = .digits := by
  have slotsOf := (read_eq_ok (read_of_compile compiled)).2.2
  rw [capturesOnlyDigits_iff]
  constructor
  · intro digits
    rcases List.mem_map.mp named with ⟨slot, slot_mem, rfl⟩
    rw [← slotsOf.kind slot slot_mem]
    exact digits slot slot_mem rfl
  · rintro digits slot slot_mem rfl
    rw [slotsOf.kind slot slot_mem]
    exact digits

theorem compile_congr {operation other : Operation}
    (same : other.declaredParameter? = operation.declaredParameter?) (text : String) :
    compile text other = compile text operation := by
  have kinds : slotKind other = slotKind operation := by
    funext name
    rw [slotKind, same]
    rfl
  rw [compile, kinds]
  rfl

end Template

/-- What an operation makes of the parameters of its path and its own: the effective one of a name
says what the slots of the name capture, a parameter that is not in the path says nothing, and the
path's parameters are overridden where they stand. -/
structure ObeysEffective (template : String) (shared own : List Parameter)
    (operation : Operation) : Prop where
  captures : ∀ compiled, Template.compile template operation = .ok compiled →
    ∀ name ∈ compiled.names, compiled.CapturesOnlyDigits name ↔
      ∃ parameter, effective? shared own name = some parameter ∧ parameter.type = .integer
  elsewhere : ∀ shared' own', inPath shared' = inPath shared → inPath own' = inPath own →
    Template.compile template { operation with parameters := mergeParameters shared' own' } =
      Template.compile template operation
  merged : (shared.map Parameter.key).Nodup → MergedInPlace operation.parameters shared own

theorem obeysEffective {template : String} {shared own : List Parameter} {operation : Operation}
    (merged : operation.parameters = mergeParameters shared own) :
    ObeysEffective template shared own operation where
  captures compiled success name named := by
    rw [Template.capturesOnlyDigits_of_compile success named, Template.slotKind_eq_digits_iff,
      declaredParameter?_eq merged]
  elsewhere shared' own' same sameOwn :=
    Template.compile_congr (declaredParameter?_eq_of_inPath merged rfl same sameOwn) template
  merged distinct := merged ▸ mergedInPlace_mergeParameters distinct

/-- Every operation of a path obeys the effective ones among the parameters of the path and its own
ones, as far as they can be used. -/
theorem obeysEffective_of_path? {root value : Json} {allowance : Nat} {template : String}
    {path : Path} (read : path? root allowance template value = some path) :
    ∃ members left, follow? root allowance value = some (.object members, left) ∧
      List.Forall₂
        (fun declared operation => operation.method = ⟨declared.1.toUpper⟩ ∧
          ObeysEffective path.template (listedParameters root left members)
            (listedParameters root left declared.2) operation)
        (declaredOperations members) path.operations := by
  rcases operations_of_path? read with ⟨-, members, left, followed, operations⟩
  refine ⟨members, left, followed, operations.imp ?_⟩
  intro declared operation keeps
  exact ⟨keeps.method, obeysEffective keeps.parameters⟩

/-- A document that declares a parameter to be referred to. -/
def tagged : Json := .object [
  ("components", .object [
    ("parameters", .object [
      ("Tag", .object [
        ("name", .string "tag"), ("in", .string "path"), ("type", .string "integer")])])])]

/-- A path with a parameter by reference and two that cannot be used. Its first operation declares
`id` twice, and `tag` for a header. -/
def taggedPath : Members := [
  ("parameters", .array [
    .object [("name", .string "id"), ("in", .string "path"),
      ("schema", .object [("type", .string "string")])],
    .object [("name", .string "id"), ("in", .string "query"), ("type", .string "integer")],
    .object [("$ref", .string "#/components/parameters/Tag")],
    .object [("$ref", .string "#/components/parameters/None")],
    .string "tag"]),
  ("get", .object [
    ("parameters", .array [
      .object [("name", .string "id"), ("in", .string "path"), ("type", .string "number")],
      .object [("name", .string "tag"), ("in", .string "header"), ("type", .string "string")],
      .object [("name", .string "id"), ("in", .string "path"), ("type", .string "integer")],
      .object [("in", .string "path")]])]),
  ("post", .object [])]

theorem obeysEffective_of_path?_tagged :
    ∃ path get post shared own,
      path? tagged 8 "/pets/{id}/{tag}" (.object taggedPath) = some path ∧
      path.operations = [get, post] ∧
      ObeysEffective path.template shared own get ∧ ObeysEffective path.template shared [] post ∧
      shared.map Parameter.key = [("id", .path), ("id", .query), ("tag", .path)] ∧
      (effective? shared own "id").map Parameter.type = some .integer ∧
      (effective? shared [] "id").map Parameter.type = some .string ∧
      (effective? shared own "tag").map Parameter.type = some .integer ∧
      get.parameters.map Parameter.key =
        [("id", .path), ("id", .query), ("tag", .path), ("tag", .header)] := by
  have read : path? tagged 8 "/pets/{id}/{tag}" (.object taggedPath) = some _ := rfl
  rcases obeysEffective_of_path? read with ⟨members, left, followed, operations⟩
  have declared : follow? tagged 8 (.object taggedPath) = some (.object taggedPath, 8) := rfl
  rw [declared] at followed
  cases followed
  rcases operations with _ | ⟨get, _ | ⟨post, rest⟩⟩
  exact ⟨_, _, _, _, _, rfl, rfl, get.2, post.2, rfl, rfl, rfl, rfl, rfl⟩

end Route

end ApiStub
