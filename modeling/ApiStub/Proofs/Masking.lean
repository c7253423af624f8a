import ApiStub.Service.Redaction
import Mathlib.Data.List.Forall2

/-!
# What a log shows of credentials

A place in a document is named by the steps that lead to it. Masking a document leaves every place
as it is that is reached without a sensitive name, up to what stands below it, and puts six stars in
every place to which a sensitive name is the first to lead. The two together leave nothing open, so
what is shown of a document is settled by its places outside of sensitive members: two documents
that agree there are shown alike, and two that are shown alike agree there.

Headers are shown one by one, so the same holds of them without any places.
-/

namespace ApiStub

namespace Json

/-- A step down in a document. -/
inductive Step where
  /-- To the item at a position. -/
  | item (index : Nat)
  /-- To the member at a position, which has this name. -/
  | member (index : Nat) (name : String)
  deriving DecidableEq, Repr

/-- What a step leads to. -/
def child? : Json → Step → Option Json
  | array items, .item index => items[index]?
  | object members, .member index name =>
    members[index]?.bind fun member => if member.1 = name then some member.2 else none
  | _, _ => none

/-- What some steps lead to. -/
def at? (document : Json) : List Step → Option Json
  | [] => some document
  | step :: trail => (document.child? step).bind fun child => child.at? trail

/-- What a document is without what stands below it: a leaf, the length of an array, or the names
of an object in order. -/
def outline : Json → Json
  | array items => array (List.replicate items.length null)
  | object members => object (members.map fun member => (member.1, null))
  | value => value

/-- Whether nothing can stand below the document. -/
def isLeaf : Json → Bool
  | array _ => false
  | object _ => false
  | _ => true

/-- A leaf is its own outline, and that of no other document. -/
theorem eq_of_outline_eq {leaf other : Json} (isLeaf : leaf.isLeaf = true)
    (same : leaf.outline = other.outline) : leaf = other := by
  have leaf_eq : leaf.outline = leaf := by
    cases leaf with
    | array items => cases isLeaf
    | object members => cases isLeaf
    | _ => rfl
  rw [leaf_eq] at same
  cases other with
  | array items => rw [same] at isLeaf; cases isLeaf
  | object members => rw [same] at isLeaf; cases isLeaf
  | _ => exact same

end Json

namespace Service

open Http (Header Headers)
open Json (Step)

/-- The step leads to a member with the name of a field, in any case. -/
def SensitiveStep (fields : List String) : Step → Prop
  | .item _ => False
  | .member _ name => ∃ field ∈ fields, foldCase field = foldCase name

/-- No step leads to a sensitive member. -/
def Exposed (fields : List String) (trail : List Step) : Prop :=
  ∀ step ∈ trail, ¬SensitiveStep fields step

/-- Two documents are the same outside of sensitive members. -/
def AgreeOutside (fields : List String) (first second : Json) : Prop :=
  ∀ trail, Exposed fields trail →
    (first.at? trail).map Json.outline = (second.at? trail).map Json.outline

/-- The second document is the first one with stars for its sensitive members. -/
structure Redacts (fields : List String) (document shown : Json) : Prop where
  kept : ∀ trail, Exposed fields trail →
    (shown.at? trail).map Json.outline = (document.at? trail).map Json.outline
  starred : ∀ trail step, Exposed fields trail → SensitiveStep fields step →
    (document.at? (trail ++ [step])).isSome → shown.at? (trail ++ [step]) = some (.string "******")

section

variable {fields : List String}

theorem isSensitive_iff {name : String} :
    isSensitive fields name = true ↔ ∃ field ∈ fields, foldCase field = foldCase name := by
  simp [isSensitive]

theorem maskItems_eq_map (fields : List String) (items : List Json) :
    maskItems fields items = items.map (mask fields) := by
  induction items with
  | nil => rfl
  | cons item rest ih => rw [maskItems, ih, List.map_cons]

theorem maskMembers_eq_map (fields : List String) (members : Members) :
    maskMembers fields members = members.map fun member =>
      (member.1, if isSensitive fields member.1 then masked else mask fields member.2) := by
  induction members with
  | nil => rfl
  | cons member rest ih =>
      obtain ⟨name, value⟩ := member
      rw [maskMembers, ih, List.map_cons]

/-! ## One step -/

theorem outline_mask (document : Json) : (mask fields document).outline = document.outline := by
  cases document with
  | array items => simp [mask, maskItems_eq_map, Json.outline]
  | object members => simp [mask, maskMembers_eq_map, Json.outline]
  | _ => rfl

theorem child?_mask_of_exposed {document : Json} {step : Step}
    (exposed : ¬SensitiveStep fields step) :
    (mask fields document).child? step = (document.child? step).map (mask fields) := by
  cases document with
  | array items =>
      cases step with
      | item index => simp [mask, maskItems_eq_map, Json.child?]
      | member index name => rfl
  | object members =>
      cases step with
      | item index => rfl
      | member index name =>
          simp only [mask, maskMembers_eq_map, Json.child?, List.getElem?_map]
          rcases members[index]? with _ | ⟨other, value⟩
          · rfl
          · by_cases same : other = name
            · have plain : isSensitive fields name = false := by
                rw [Bool.eq_false_iff]
                exact fun sensitive => exposed (isSensitive_iff.mp sensitive)
              simp [same, plain]
            · simp [same]
  | _ => cases step <;> rfl

theorem child?_mask_of_sensitive {document : Json} {step : Step}
    (sensitive : SensitiveStep fields step) :
    (mask fields document).child? step = (document.child? step).map fun _ => masked := by
  cases step with
  | item index => cases sensitive
  | member index name =>
      cases document with
      | object members =>
          simp only [mask, maskMembers_eq_map, Json.child?, List.getElem?_map]
          rcases members[index]? with _ | ⟨other, value⟩
          · rfl
          · by_cases same : other = name
            · simp [same, isSensitive_iff.mpr sensitive]
            · simp [same]
      | _ => rfl

/-! ## Every place -/

theorem outline_at?_mask {document : Json} {trail : List Step} (exposed : Exposed fields trail) :
    ((mask fields document).at? trail).map Json.outline =
      (document.at? trail).map Json.outline := by
  induction trail generalizing document with
  | nil => simp [Json.at?, outline_mask]
  | cons step trail ih =>
      rw [Exposed, List.forall_mem_cons] at exposed
      simp only [Json.at?, child?_mask_of_exposed exposed.1]
      rcases document.child? step with _ | child
      · rfl
      · exact ih exposed.2

theorem at?_mask_of_sensitive {document : Json} {trail : List Step} {step : Step}
    (exposed : Exposed fields trail) (sensitive : SensitiveStep fields step)
    (present : (document.at? (trail ++ [step])).isSome) :
    (mask fields document).at? (trail ++ [step]) = some masked := by
  induction trail generalizing document with
  | nil =>
      simp only [List.nil_append, Json.at?, child?_mask_of_sensitive sensitive] at present ⊢
      rcases found : document.child? step with _ | child
      · simp [found] at present
      · rfl
  | cons first trail ih =>
      rw [Exposed, List.forall_mem_cons] at exposed
      simp only [List.cons_append, Json.at?, child?_mask_of_exposed exposed.1] at present ⊢
      rcases found : document.child? first with _ | child
      · simp [found] at present
      · rw [found] at present
        exact ih exposed.2 present

theorem redacts_mask (fields : List String) (document : Json) :
    Redacts fields document (mask fields document) where
  kept _ exposed := outline_at?_mask exposed
  starred _ _ exposed sensitive present := at?_mask_of_sensitive exposed sensitive present

example :
    mask ["pin"] (.object [("Pin", .object [("pin", .int 1)]), ("card", .array [.string "pin"])]) =
      .object [("Pin", .string "******"), ("card", .array [.string "pin"])] := by
  rfl

/-! ## Documents that agree outside of sensitive members -/

theorem AgreeOutside.child {first second firstChild secondChild : Json} {step : Step}
    (agree : AgreeOutside fields first second) (exposed : ¬SensitiveStep fields step)
    (firstStep : first.child? step = some firstChild)
    (secondStep : second.child? step = some secondChild) :
    AgreeOutside fields firstChild secondChild := by
  intro trail below
  have whole := agree (step :: trail) (List.forall_mem_cons.mpr ⟨exposed, below⟩)
  simpa [Json.at?, firstStep, secondStep] using whole

theorem AgreeOutside.outline {first second : Json} (agree : AgreeOutside fields first second) :
    first.outline = second.outline := by
  simpa [Json.at?] using agree [] (fun step listed => by cases listed)

theorem AgreeOutside.array {items : List Json} {second : Json}
    (agree : AgreeOutside fields (.array items) second) :
    ∃ others, second = .array others ∧ List.Forall₂ (AgreeOutside fields) items others := by
  have outline := agree.outline
  cases second with
  | array others =>
      refine ⟨others, rfl, List.forall₂_iff_get.mpr ⟨?_, ?_⟩⟩
      · simpa [Json.outline, Json.items?] using
          congrArg (fun value => (value.items?.getD []).length) outline
      · intro index inFirst inSecond
        have exposed : ¬SensitiveStep fields (.item index) := id
        exact agree.child exposed (by simp [Json.child?, inFirst]) (by simp [Json.child?, inSecond])
  | _ => cases outline

theorem AgreeOutside.object {members : Members} {second : Json}
    (agree : AgreeOutside fields (.object members) second) :
    ∃ others, second = .object others ∧ List.Forall₂ (fun member other =>
      member.1 = other.1 ∧
        (isSensitive fields member.1 = false → AgreeOutside fields member.2 other.2))
      members others := by
  have outline := agree.outline
  cases second with
  | object others =>
      have names : members.map (·.1) = others.map (·.1) := by
        simpa [Json.outline, Json.members?, Function.comp_def] using
          congrArg (fun value => (value.members?.getD []).map (·.1)) outline
      have lengths : members.length = others.length := by
        simpa using congrArg List.length names
      refine ⟨others, rfl, List.forall₂_iff_get.mpr ⟨lengths, ?_⟩⟩
      intro index inFirst inSecond
      have same : members[index].1 = others[index].1 := by
        have here := congrArg (·[index]?) names
        simpa [inFirst, inSecond] using here
      refine ⟨same, fun plain => ?_⟩
      have exposed : ¬SensitiveStep fields (.member index members[index].1) := by
        intro sensitive
        rw [List.get_eq_getElem, isSensitive_iff.mpr sensitive] at plain
        cases plain
      exact agree.child exposed (by simp [Json.child?, inFirst])
        (by simp [Json.child?, inSecond, same])
  | _ => cases outline

mutual

/-- Documents that agree outside of sensitive members are shown alike. -/
theorem mask_congr : (first second : Json) → AgreeOutside fields first second →
    mask fields first = mask fields second
  | .array items, second, agree => by
    rcases agree.array with ⟨others, rfl, each⟩
    rw [mask, mask, maskItems_congr items others each]
  | .object members, second, agree => by
    rcases agree.object with ⟨others, rfl, each⟩
    rw [mask, mask, maskMembers_congr members others each]
  | .null, _, agree => by rw [Json.eq_of_outline_eq rfl agree.outline]
  | .bool value, _, agree => by rw [Json.eq_of_outline_eq rfl agree.outline]
  | .int value, _, agree => by rw [Json.eq_of_outline_eq rfl agree.outline]
  | .float value, _, agree => by rw [Json.eq_of_outline_eq rfl agree.outline]
  | .string value, _, agree => by rw [Json.eq_of_outline_eq rfl agree.outline]

theorem maskItems_congr : (items others : List Json) →
    List.Forall₂ (AgreeOutside fields) items others →
    maskItems fields items = maskItems fields others
  | [], _, .nil => rfl
  | item :: rest, other :: others, .cons first each => by
    rw [maskItems, maskItems, mask_congr item other first, maskItems_congr rest others each]

theorem maskMembers_congr : (members others : Members) →
    List.Forall₂ (fun member other => member.1 = other.1 ∧
      (isSensitive fields member.1 = false → AgreeOutside fields member.2 other.2))
      members others →
    maskMembers fields members = maskMembers fields others
  | [], _, .nil => rfl
  | (name, value) :: rest, (other, second) :: others, .cons first each => by
    rcases first with ⟨rfl, agree⟩
    rw [maskMembers, maskMembers, maskMembers_congr rest others each]
    cases sensitive : isSensitive fields name with
    | true => rfl
    | false =>
        rw [mask_congr value second (agree sensitive)]

end

theorem mask_eq_iff {first second : Json} :
    mask fields first = mask fields second ↔ AgreeOutside fields first second := by
  constructor
  · intro same trail exposed
    rw [← outline_at?_mask exposed, same, outline_at?_mask exposed]
  · exact mask_congr first second

/-- What is shown has nothing left to mask. -/
theorem mask_mask (fields : List String) (document : Json) :
    mask fields (mask fields document) = mask fields document :=
  mask_congr _ _ fun _ exposed => outline_at?_mask exposed

theorem shownBody_of_parseBytes? {bytes : List UInt8} {document : Json}
    (parsed : Json.parseBytes? bytes = some document) :
    shownBody fields bytes = some (mask fields document) := by
  have present : bytes.isEmpty = false := by
    cases bytes with
    | nil => cases parsed
    | cons first rest => rfl
  rw [shownBody, present, parsed]
  rfl

end

/-! ## Headers -/

/-- Two headers are the same, but for the value of a credential. -/
structure SameButCredential (header other : Header) : Prop where
  name : header.name = other.name
  value : header.name ∉ ["authorization", "cookie", "x-api-key"] → header.value = other.value

/-- Each header is shown in its place under its name, with its text unless it is a credential. -/
structure ShowsHeaders (headers : Headers) (shown : List (String × String)) : Prop where
  names : shown.map (·.1) = headers.map Header.name
  texts : ∀ (index : Nat) (header : Header) (text : String), headers[index]? = some header →
    header.name ∉ ["authorization", "cookie", "x-api-key"] → header.text? = some text →
    shown[index]? = some (header.name, text)

theorem shownValue_of_credential {header : Header} (credential : header.name ∈ credentialHeaders) :
    shownValue header = "[REDACTED]" := by
  simp [shownValue, credential]

theorem shownValue_of_plain {header : Header} (plain : header.name ∉ credentialHeaders) :
    shownValue header = header.text?.getD "<binary>" := by
  simp [shownValue, plain]

theorem SameButCredential.shownValue_eq {header other : Header}
    (same : SameButCredential header other) : shownValue header = shownValue other := by
  by_cases credential : header.name ∈ credentialHeaders
  · rw [shownValue_of_credential credential,
      shownValue_of_credential (by rw [← same.name]; exact credential)]
  · have text : header.text? = other.text? := by rw [Header.text?, same.value credential]; rfl
    rw [shownValue_of_plain credential, text,
      shownValue_of_plain (by rw [← same.name]; exact credential)]

theorem shownHeaders_congr {headers others : Headers}
    (same : List.Forall₂ SameButCredential headers others) :
    shownHeaders headers = shownHeaders others := by
  induction same with
  | nil => rfl
  | cons first rest ih =>
      rw [shownHeaders, List.map_cons, first.name, first.shownValue_eq]
      exact congrArg (_ :: ·) ih

theorem showsHeaders (headers : Headers) : ShowsHeaders headers (shownHeaders headers) where
  names := by simp [shownHeaders, Function.comp_def]
  texts := by
    intro index header text listed plain known
    simp [shownHeaders, listed, shownValue_of_plain plain, known]

/-- What is shown of a document has six stars for each member with a sensitive name that is not
below another one, and is the document everywhere else, so showing it again changes nothing. Two
documents are shown alike exactly when they agree outside of such members, and so are bodies that
hold them. Of headers the values of credentials are not shown, and nothing else is changed. -/
theorem credentials_not_shown (fields : List String) :
    (∀ document, Redacts fields document (mask fields document) ∧
      mask fields (mask fields document) = mask fields document) ∧
    (∀ first second, mask fields first = mask fields second ↔ AgreeOutside fields first second) ∧
    (∀ bytes others first second, Json.parseBytes? bytes = some first →
      Json.parseBytes? others = some second → AgreeOutside fields first second →
      shownBody fields bytes = shownBody fields others) ∧
    (∀ headers others, List.Forall₂ SameButCredential headers others →
      shownHeaders headers = shownHeaders others) ∧
    ∀ headers, ShowsHeaders headers (shownHeaders headers) := by
  refine ⟨fun document => ⟨redacts_mask fields document, mask_mask fields document⟩,
    fun first second => mask_eq_iff, ?_, fun headers others => shownHeaders_congr, showsHeaders⟩
  intro bytes others first second parsed parsedOther agree
  rw [shownBody_of_parseBytes? parsed, shownBody_of_parseBytes? parsedOther,
    mask_eq_iff.mpr agree]

end Service

end ApiStub
