import ApiStub.Proofs.Inlining

/-!
# The parts of a document

`document.Holds part` says that a value is the document or stands somewhere in it. A reference leads
to a part of the document, and so does every place that an expansion visits, so an expansion that
begins in a document stays in it. `breadth` is the greatest number of schemas that one object of the
document can ask for, and one more.
-/

namespace ApiStub

namespace Json

/-- The value is the document or stands in it. -/
inductive Holds : Json → Json → Prop where
  | whole (document : Json) : Holds document document
  | item {items : List Json} {item part : Json} (mem : item ∈ items) (below : Holds item part) :
      Holds (.array items) part
  | member {members : Members} {name : String} {value part : Json} (mem : (name, value) ∈ members)
      (below : Holds value part) : Holds (.object members) part

theorem Holds.trans {document part value : Json} (outer : document.Holds part)
    (inner : part.Holds value) : document.Holds value := by
  induction outer with
  | whole document => exact inner
  | item mem _ ih => exact .item mem (ih inner)
  | member mem _ ih => exact .member mem (ih inner)

theorem mem_of_find? {α : Type} {members : List (String × α)} {name : String} {value : α}
    (found : find? members name = some value) : (name, value) ∈ members := by
  rcases Option.map_eq_some_iff.mp found with ⟨⟨other, held⟩, first, rfl⟩
  have same : other = name := by simpa using List.find?_some first
  rw [← same]
  exact List.mem_of_find?_eq_some first

theorem holds_of_find? {members : Members} {name : String} {value : Json}
    (found : find? members name = some value) : (Json.object members).Holds value :=
  .member (mem_of_find? found) (.whole value)

theorem holds_of_items? {document item : Json} {items : List Json}
    (listed : document.items? = some items) (mem : item ∈ items) : document.Holds item := by
  cases document with
  | array held =>
      cases listed
      exact .item mem (.whole item)
  | _ => cases listed

theorem holds_of_members? {document : Json} {members : Members} {entry : String × Json}
    (declared : document.members? = some members) (mem : entry ∈ members) :
    document.Holds entry.2 := by
  cases document with
  | object held =>
      cases declared
      exact .member mem (.whole entry.2)
  | _ => cases declared

theorem holds_of_get? {document part : Json} {name : String}
    (found : document.get? name = some part) : document.Holds part := by
  cases document with
  | object members => exact holds_of_find? found
  | _ => cases found

theorem holds_of_step? {token : List Char} {document part : Json}
    (found : step? token document = some part) : document.Holds part := by
  cases document with
  | object members => exact holds_of_find? found
  | array items =>
      rcases Option.bind_eq_some_iff.mp found with ⟨index, _, listed⟩
      exact .item (List.mem_of_getElem? listed) (.whole part)
  | _ => cases found

theorem holds_of_pointer? {document part : Json} {pointer : String}
    (found : pointer? document pointer = some part) : document.Holds part := by
  -- The steps lost on the way leave nothing, so the ones that lead on are taken from a part.
  have steps : ∀ (tokens : List (List Char)) (start : Option Json),
      tokens.foldl (fun found token => found.bind (step? token)) start = some part →
        ∃ first, start = some first ∧ first.Holds part := by
    intro tokens
    induction tokens with
    | nil =>
        intro start reached
        exact ⟨part, reached, .whole part⟩
    | cons token rest ih =>
        intro start reached
        rcases ih _ reached with ⟨next, stepped, below⟩
        rcases Option.bind_eq_some_iff.mp stepped with ⟨first, rfl, step⟩
        exact ⟨first, rfl, (holds_of_step? step).trans below⟩
  simp only [pointer?] at found
  split at found
  · cases found
    exact .whole _
  · rcases steps _ _ found with ⟨first, isWhole, below⟩
    cases isWhole
    exact below
  · cases found

end Json

namespace Api

theorem holds_of_resolve? {root target : Json} {reference : String}
    (resolved : resolve? root reference = some target) : root.Holds target := by
  simp only [resolve?] at resolved
  split at resolved
  · exact Json.holds_of_pointer? resolved
  · cases resolved

/-- References lead from a part of the document to a part of it. -/
theorem holds_of_follow? {root value target : Json} {allowance left : Nat}
    (held : root.Holds value) (followed : follow? root allowance value = some (target, left)) :
    root.Holds target := by
  have follows := Follows.follow?_eq_some_iff.mp followed
  clear followed
  induction follows with
  | stop _ => exact held
  | step _ resolved _ ih => exact ih (holds_of_resolve? resolved)

section Visited

variable {members : Members} {child : Json}

theorem holds_of_propertyPlaces (mem : child ∈ propertyPlaces members) :
    (Json.object members).Holds child := by
  rcases List.mem_map.mp mem with ⟨entry, entry_mem, rfl⟩
  cases found : (Json.find? members "properties").bind Json.members? with
  | none => simp [found] at entry_mem
  | some declared =>
      rcases Option.bind_eq_some_iff.mp found with ⟨value, under, isObject⟩
      rw [found] at entry_mem
      exact (Json.holds_of_find? under).trans (Json.holds_of_members? isObject entry_mem)

theorem holds_of_itemPlaces (mem : child ∈ itemPlaces members) :
    (Json.object members).Holds child :=
  Json.holds_of_find? (Option.mem_toList.mp mem)

theorem holds_of_branches? {keyword : String} {branches : List Json}
    (combined : branches? members keyword = some branches) (mem : child ∈ branches) :
    (Json.object members).Holds child := by
  rcases Option.bind_eq_some_iff.mp combined with ⟨value, under, listed⟩
  exact (Json.holds_of_find? under).trans (Json.holds_of_items? listed mem)

theorem holds_of_alternative? (chosen : alternative? members = some child) :
    (Json.object members).Holds child := by
  have first : ∀ keyword, (branches? members keyword).bind List.head? = some child →
      (Json.object members).Holds child := by
    intro keyword head
    rcases Option.bind_eq_some_iff.mp head with ⟨branches, combined, isHead⟩
    exact holds_of_branches? combined (List.mem_of_head? isHead)
  rcases Option.or_eq_some_iff.mp chosen with one | ⟨_, any⟩
  · exact first "oneOf" one
  · exact first "anyOf" any

theorem holds_of_visited (mem : child ∈ visited members) : (Json.object members).Holds child := by
  simp only [visited] at mem
  split at mem
  · rename_i branches combined
    rcases List.mem_append.mp mem with inProperties | inBranches
    · exact holds_of_propertyPlaces inProperties
    · exact holds_of_branches? combined inBranches
  · split at mem
    · rename_i branch chosen
      rcases List.mem_singleton.mp mem with rfl
      exact holds_of_alternative? chosen
    · simp only [typedPlaces] at mem
      split at mem
      · exact holds_of_itemPlaces mem
      · exact holds_of_propertyPlaces mem
      · cases mem
      · split at mem
        · exact holds_of_itemPlaces mem
        · exact holds_of_propertyPlaces mem

end Visited

/-- The number of properties and of `allOf` branches that an object declares, and one more. -/
def width (members : Members) : Nat :=
  (propertyPlaces members).length + ((branches? members "allOf").getD []).length + 1

theorem length_visited_le (members : Members) : (visited members).length ≤ width members := by
  have items : (itemPlaces members).length ≤ 1 := by
    simp only [itemPlaces]
    cases Json.find? members "items" <;> simp
  simp only [visited, width]
  split
  · rename_i branches combined
    rw [combined, List.length_append, Option.getD_some]
    omega
  · split
    · simp
    · simp only [typedPlaces]
      split
      · omega
      · omega
      · exact Nat.zero_le _
      · split <;> omega

mutual

/-- The greatest width of the objects of a document. -/
def breadth : Json → Nat
  | .object members => max (width members) (breadthOfMembers members)
  | .array items => breadthOfItems items
  | _ => 0

/-- The greatest width of the objects in some members. -/
def breadthOfMembers : Members → Nat
  | [] => 0
  | (_, value) :: rest => max (breadth value) (breadthOfMembers rest)

/-- The greatest width of the objects in some items. -/
def breadthOfItems : List Json → Nat
  | [] => 0
  | item :: rest => max (breadth item) (breadthOfItems rest)

end

theorem breadth_le_breadthOfMembers {members : Members} {name : String} {value : Json}
    (mem : (name, value) ∈ members) : breadth value ≤ breadthOfMembers members := by
  induction members with
  | nil => cases mem
  | cons entry rest ih =>
      rw [breadthOfMembers]
      rcases List.mem_cons.mp mem with rfl | later
      · exact Nat.le_max_left _ _
      · exact Nat.le_trans (ih later) (Nat.le_max_right _ _)

theorem breadth_le_breadthOfItems {items : List Json} {item : Json} (mem : item ∈ items) :
    breadth item ≤ breadthOfItems items := by
  induction items with
  | nil => cases mem
  | cons first rest ih =>
      rw [breadthOfItems]
      rcases List.mem_cons.mp mem with rfl | later
      · exact Nat.le_max_left _ _
      · exact Nat.le_trans (ih later) (Nat.le_max_right _ _)

theorem breadth_le_of_holds {document part : Json} (held : document.Holds part) :
    breadth part ≤ breadth document := by
  induction held with
  | whole document => exact Nat.le_refl _
  | item mem _ ih =>
      rw [breadth]
      exact Nat.le_trans ih (breadth_le_breadthOfItems mem)
  | member mem _ ih =>
      rw [breadth]
      exact Nat.le_trans (Nat.le_trans ih (breadth_le_breadthOfMembers mem)) (Nat.le_max_right _ _)

theorem width_le_breadth {document : Json} {members : Members}
    (held : document.Holds (.object members)) : width members ≤ breadth document := by
  have atPart : width members ≤ breadth (.object members) := by
    rw [breadth]
    exact Nat.le_max_left _ _
  exact Nat.le_trans atPart (breadth_le_of_holds held)

end Api

end ApiStub
