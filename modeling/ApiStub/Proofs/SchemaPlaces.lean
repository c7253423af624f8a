import ApiStub.Api.Expansion

/-!
# The places of schemas

A schema holds other schemas under `properties`, `items` and `allOf`, and in the first place under
`oneOf` and `anyOf`. `mapPlaces` replaces the schemas in these places and nothing else. `visited`
lists the ones that an expansion goes on to, in its order: which keywords count depends on the
others, so an `allOf` hides the items, and a declared type hides the keywords of other types.

The expansion of an object depends on the places in `visited` only: it stays the same when the
schemas there are replaced by schemas that expand alike, with whatever allowance.
-/

namespace ApiStub

namespace Json

/-- Applies a function to the value of every member, when the document is an object. -/
def mapMembers (f : Json → Json) : Json → Json
  | object members => object (members.map fun entry => (entry.1, f entry.2))
  | value => value

/-- Applies a function to every item, when the document is an array. -/
def mapItems (f : Json → Json) : Json → Json
  | array items => array (items.map f)
  | value => value

/-- Applies a function to the first item, when the document is an array that has one. -/
def mapFirst (f : Json → Json) : Json → Json
  | array (first :: rest) => array (f first :: rest)
  | value => value

theorem members?_mapMembers (f : Json → Json) (value : Json) :
    (value.mapMembers f).members? =
      value.members?.map fun members => members.map fun entry => (entry.1, f entry.2) := by
  cases value <;> rfl

theorem items?_mapItems (f : Json → Json) (value : Json) :
    (value.mapItems f).items? = value.items?.map fun items => items.map f := by
  cases value <;> rfl

theorem head?_mapFirst (f : Json → Json) (value : Json) :
    ((value.mapFirst f).items?).bind List.head? = ((value.items?).bind List.head?).map f := by
  cases value with
  | array items => cases items <;> rfl
  | _ => rfl

end Json

namespace Api

/-- Applies a function to the schemas under a keyword. -/
def mapUnder (f : Json → Json) (keyword : String) (value : Json) : Json :=
  match keyword with
  | "properties" => value.mapMembers f
  | "items" => f value
  | "allOf" => value.mapItems f
  | "oneOf" => value.mapFirst f
  | "anyOf" => value.mapFirst f
  | _ => value

/-- Applies a function to the schemas that an object of the document holds. -/
def mapPlaces (f : Json → Json) (members : Members) : Members :=
  members.map fun entry => (entry.1, mapUnder f entry.1 entry.2)

/-- The schemas of the declared properties, in order. -/
def propertyPlaces (members : Members) : List Json :=
  (((Json.find? members "properties").bind Json.members?).getD []).map (·.2)

/-- The schema of the items. -/
def itemPlaces (members : Members) : List Json :=
  (Json.find? members "items").toList

/-- The schemas that the type of an object of the document makes count, in order. -/
def typedPlaces (members : Members) : List Json :=
  match declaredType? (.object members) with
  | some "array" => itemPlaces members
  | some "object" => propertyPlaces members
  | some _ => []
  | none =>
    if (Json.find? members "items").isSome then itemPlaces members else propertyPlaces members

/-- The schemas that the expansion of an object of the document goes on to, in order. -/
def visited (members : Members) : List Json :=
  match branches? members "allOf" with
  | some branches => propertyPlaces members ++ branches
  | none =>
    match alternative? members with
    | some branch => [branch]
    | none => typedPlaces members

theorem find?_mapPlaces (f : Json → Json) (members : Members) (keyword : String) :
    Json.find? (mapPlaces f members) keyword =
      (Json.find? members keyword).map (mapUnder f keyword) := by
  induction members with
  | nil => rfl
  | cons entry rest ih =>
      by_cases same : entry.1 = keyword
      · simp [Json.find?, mapPlaces, same]
      · simpa [Json.find?, mapPlaces, same] using ih

/-- A keyword without a schema under it keeps its value. -/
theorem find?_mapPlaces_of_plain {f : Json → Json} {keyword : String} (members : Members)
    (plain : mapUnder f keyword = id) :
    Json.find? (mapPlaces f members) keyword = Json.find? members keyword := by
  rw [find?_mapPlaces, plain, Option.map_id]
  rfl

section Keywords

variable (f : Json → Json) (members : Members)

@[simp]
theorem example?_mapPlaces : example? (mapPlaces f members) = example? members := by
  simp only [example?]
  rw [find?_mapPlaces_of_plain members rfl, find?_mapPlaces_of_plain members rfl]

@[simp]
theorem allowedValues_mapPlaces : allowedValues (mapPlaces f members) = allowedValues members := by
  simp only [allowedValues]
  rw [find?_mapPlaces_of_plain members rfl]

@[simp]
theorem stringFacets_mapPlaces : stringFacets (mapPlaces f members) = stringFacets members := by
  simp only [stringFacets, textOf?, sizeBounds]
  rw [find?_mapPlaces_of_plain members rfl, find?_mapPlaces_of_plain members rfl,
    find?_mapPlaces_of_plain members rfl, find?_mapPlaces_of_plain members rfl]

@[simp]
theorem valueBounds_mapPlaces : valueBounds (mapPlaces f members) = valueBounds members := by
  simp only [valueBounds]
  rw [find?_mapPlaces_of_plain members rfl, find?_mapPlaces_of_plain members rfl]

@[simp]
theorem sizeBounds_items_mapPlaces :
    sizeBounds (mapPlaces f members) "minItems" "maxItems" =
      sizeBounds members "minItems" "maxItems" := by
  simp only [sizeBounds]
  rw [find?_mapPlaces_of_plain members rfl, find?_mapPlaces_of_plain members rfl]

@[simp]
theorem declaredType?_mapPlaces :
    declaredType? (.object (mapPlaces f members)) = declaredType? (.object members) := by
  simp only [declaredType?, Json.get?]
  rw [find?_mapPlaces_of_plain members rfl]

@[simp]
theorem reference?_mapPlaces :
    reference? (.object (mapPlaces f members)) = reference? (.object members) := by
  simp only [reference?, Json.get?]
  rw [find?_mapPlaces_of_plain members rfl]

@[simp]
theorem branches?_mapPlaces :
    branches? (mapPlaces f members) "allOf" =
      (branches? members "allOf").map fun branches => branches.map f := by
  simp only [branches?]
  rw [find?_mapPlaces]
  cases Json.find? members "allOf" with
  | none => rfl
  | some value => exact Json.items?_mapItems f value

@[simp]
theorem alternative?_mapPlaces :
    alternative? (mapPlaces f members) = (alternative? members).map f := by
  have first : ∀ keyword, mapUnder f keyword = Json.mapFirst f →
      (branches? (mapPlaces f members) keyword).bind List.head? =
        ((branches? members keyword).bind List.head?).map f := by
    intro keyword under
    simp only [branches?]
    rw [find?_mapPlaces, under]
    cases Json.find? members keyword with
    | none => rfl
    | some value => exact Json.head?_mapFirst f value
  simp only [alternative?]
  rw [first "oneOf" rfl, first "anyOf" rfl, Option.map_or]

@[simp]
theorem find?_items_mapPlaces :
    Json.find? (mapPlaces f members) "items" = (Json.find? members "items").map f :=
  find?_mapPlaces f members "items"

/-- The declared properties are the same, with the function applied to their schemas. -/
theorem properties_mapPlaces :
    ((Json.find? (mapPlaces f members) "properties").bind Json.members?).getD [] =
      (((Json.find? members "properties").bind Json.members?).getD []).map
        fun entry => (entry.1, f entry.2) := by
  rw [find?_mapPlaces]
  cases Json.find? members "properties" with
  | none => rfl
  | some value =>
      change ((value.mapMembers f).members?).getD [] = ((value.members?).getD []).map _
      rw [Json.members?_mapMembers]
      cases value.members? <;> rfl

@[simp]
theorem propertyPlaces_mapPlaces :
    propertyPlaces (mapPlaces f members) = (propertyPlaces members).map f := by
  simp only [propertyPlaces]
  rw [properties_mapPlaces, List.map_map, List.map_map]
  rfl

@[simp]
theorem itemPlaces_mapPlaces : itemPlaces (mapPlaces f members) = (itemPlaces members).map f := by
  simp only [itemPlaces]
  rw [find?_items_mapPlaces]
  cases Json.find? members "items" <;> rfl

theorem typedPlaces_mapPlaces :
    typedPlaces (mapPlaces f members) = (typedPlaces members).map f := by
  simp only [typedPlaces]
  rw [declaredType?_mapPlaces, propertyPlaces_mapPlaces, itemPlaces_mapPlaces,
    find?_items_mapPlaces, Option.isSome_map]
  split
  · rfl
  · rfl
  · rfl
  · split <;> rfl

/-- An expansion goes on to the same places, with the function applied to what stands there. -/
theorem visited_mapPlaces : visited (mapPlaces f members) = (visited members).map f := by
  simp only [visited]
  rw [branches?_mapPlaces, alternative?_mapPlaces]
  cases branches? members "allOf" with
  | some branches => simp
  | none =>
      cases alternative? members with
      | some branch => rfl
      | none => exact typedPlaces_mapPlaces f members

end Keywords

/-- Two ways to expand give the same for each of some schemas, the second one after a function has
been applied to the schema. -/
def Alike (f : Json → Json) (visit other : Json → Nat → Expansion Schema) (allowance rest : Nat)
    (values : List Json) : Prop :=
  ∀ value ∈ values, visit value allowance = other (f value) rest

section Alike

variable {f : Json → Json} {visit other : Json → Nat → Expansion Schema} {members : Members}
  {allowance rest : Nat}

theorem alike_cons_iff {value : Json} {values : List Json} :
    Alike f visit other allowance rest (value :: values) ↔
      visit value allowance = other (f value) rest ∧ Alike f visit other allowance rest values :=
  List.forall_mem_cons

theorem alike_append_iff {first second : List Json} :
    Alike f visit other allowance rest (first ++ second) ↔
      Alike f visit other allowance rest first ∧ Alike f visit other allowance rest second :=
  List.forall_mem_append

theorem expandItems_mapPlaces (alike : Alike f visit other allowance rest (itemPlaces members)) :
    expandItems visit members allowance = expandItems other (mapPlaces f members) rest := by
  simp only [expandItems]
  simp only [itemPlaces] at alike
  rw [find?_items_mapPlaces]
  cases found : Json.find? members "items" with
  | none => rfl
  | some items =>
      rw [found, Option.toList_some, alike_cons_iff] at alike
      simp only [Option.map_some]
      rw [alike.1]

theorem expandProperties_map {declared : Members}
    (alike : Alike f visit other allowance rest (declared.map (·.2))) :
    expandProperties visit allowance declared =
      expandProperties other rest (declared.map fun entry => (entry.1, f entry.2)) := by
  induction declared with
  | nil => rfl
  | cons entry others ih =>
      rw [List.map_cons, alike_cons_iff] at alike
      simp only [List.map_cons, expandProperties]
      rw [alike.1, ih alike.2]

theorem expandShape_mapPlaces
    (alike : Alike f visit other allowance rest (propertyPlaces members)) :
    expandShape visit members allowance = expandShape other (mapPlaces f members) rest := by
  simp only [expandShape]
  have required : mapUnder f "required" = id := rfl
  rw [properties_mapPlaces, find?_mapPlaces_of_plain members required, expandProperties_map alike]

theorem expandBranches_map {branches : List Json} {state : Merge}
    (alike : Alike f visit other allowance rest branches) :
    expandBranches visit allowance branches state =
      expandBranches other rest (branches.map f) state := by
  induction branches generalizing state with
  | nil => rfl
  | cons branch branches ih =>
      rw [alike_cons_iff] at alike
      simp only [List.map_cons, expandBranches]
      rw [alike.1]
      apply bind_congr
      intro schema
      exact ih alike.2

theorem expandTyped_mapPlaces (alike : Alike f visit other allowance rest (typedPlaces members)) :
    expandTyped visit members allowance = expandTyped other (mapPlaces f members) rest := by
  simp only [expandTyped]
  simp only [typedPlaces] at alike
  rw [declaredType?_mapPlaces, example?_mapPlaces, allowedValues_mapPlaces, stringFacets_mapPlaces,
    valueBounds_mapPlaces, sizeBounds_items_mapPlaces, find?_items_mapPlaces, Option.isSome_map]
  cases declared : declaredType? (.object members) with
  | none =>
      simp only [declared] at alike ⊢
      split at alike
      · rename_i hasItems
        rw [if_pos hasItems, if_pos hasItems, expandItems_mapPlaces alike]
      · rename_i noItems
        rw [if_neg noItems, if_neg noItems, expandShape_mapPlaces alike]
  | some keyword =>
      split
      · rfl
      · rfl
      · rfl
      · rfl
      · rename_i isArray
        rw [declared, isArray] at alike
        rw [expandItems_mapPlaces alike]
      · rename_i isObject
        rw [declared, isObject] at alike
        rw [expandShape_mapPlaces alike]
      · rfl
      · rename_i absent
        cases absent

/-- The schema of an object stays the same when the schemas in the visited places are replaced by
schemas that expand alike. -/
theorem expandMembers_mapPlaces (alike : Alike f visit other allowance rest (visited members)) :
    expandMembers visit members allowance = expandMembers other (mapPlaces f members) rest := by
  simp only [expandMembers]
  simp only [visited] at alike
  rw [branches?_mapPlaces, alternative?_mapPlaces, example?_mapPlaces]
  cases combined : branches? members "allOf" with
  | some branches =>
      simp only [combined] at alike
      rcases alike_append_iff.mp alike with ⟨properties, branchesAlike⟩
      simp only [Option.map_some]
      rw [expandShape_mapPlaces properties]
      apply bind_congr
      intro shape
      rw [expandBranches_map branchesAlike]
  | none =>
      cases chosen : alternative? members with
      | some branch =>
          simp only [combined, chosen] at alike
          simp only [Option.map_none, Option.map_some]
          rw [(alike_cons_iff.mp alike).1]
      | none =>
          simp only [combined, chosen] at alike
          exact expandTyped_mapPlaces alike

end Alike

end Api

end ApiStub
