import ApiStub.Proofs.Traversal
import ApiStub.Route.Template

/-!
# The text of a template

What is read out of a text writes that text again: the literals and the names of a template are the
stretches of its text between the braces, so none of them holds a brace. Each slot takes what
`kindOf` says of its name.

The fuel of `readSlots` is the length of what is left, and a slot takes up two braces at least, so
the fuel never runs out before the text does.
-/

namespace ApiStub.Route

/-- Neither brace occurs. -/
def Braceless (text : List Char) : Prop := '{' ∉ text ∧ '}' ∉ text

namespace Template

/-- The slots are those of a text: no brace is left in them, and each is of its kind. -/
structure SlotsOf (kindOf : String → SlotKind) (slots : List Slot) : Prop where
  name : ∀ slot ∈ slots, Braceless slot.name
  after : ∀ slot ∈ slots, Braceless slot.after
  kind : ∀ slot ∈ slots, slot.kind = kindOf (String.ofList slot.name)

theorem SlotsOf.cons {kindOf : String → SlotKind} {slots : List Slot} {name after : List Char}
    (name_braceless : Braceless name) (after_braceless : Braceless after)
    (rest : SlotsOf kindOf slots) :
    SlotsOf kindOf (⟨name, kindOf (String.ofList name), after⟩ :: slots) where
  name := List.forall_mem_cons.mpr ⟨name_braceless, rest.name⟩
  after := List.forall_mem_cons.mpr ⟨after_braceless, rest.after⟩
  kind := List.forall_mem_cons.mpr ⟨rfl, rest.kind⟩

theorem readLiteral_eq_ok {input literal rest : List Char}
    (read : readLiteral input = .ok (literal, rest)) :
    input = literal ++ rest ∧ Braceless literal ∧ ∀ c ∈ rest.head?, c = '{' := by
  simp only [readLiteral] at read
  split at read
  · cases read
  · rename_i closed
    cases read
    rcases takeWhile_ne_split '{' input with ⟨split, unopened, opened⟩
    exact ⟨split, ⟨unopened, by simpa using closed⟩, opened⟩

theorem readName_eq_ok {input name rest : List Char}
    (read : readName input = .ok (name, rest)) :
    input = name ++ '}' :: rest ∧ Braceless name := by
  simp only [readName] at read
  split at read
  · cases read
  · rename_i c after dropped
    split at read
    · cases read
    · rename_i closed
      cases read
      rcases takeWhile_ne_split '}' input with ⟨split, unclosed, stopped⟩
      rw [dropped] at split stopped
      have c_eq : c = '}' := stopped c rfl
      subst c
      exact ⟨split, by simpa using closed, unclosed⟩

theorem readSlots_eq_ok {kindOf : String → SlotKind} {fuel : Nat} {input : List Char}
    {slots : List Slot} (read : readSlots kindOf fuel input = .ok slots)
    (enough : input.length ≤ fuel) (opened : ∀ c ∈ input.head?, c = '{') :
    input = slots.flatMap writeSlot ∧ SlotsOf kindOf slots := by
  induction fuel generalizing input slots with
  | zero =>
      cases read
      exact ⟨List.length_eq_zero_iff.mp (by omega), by simp, by simp, by simp⟩
  | succ fuel ih =>
      cases input with
      | nil =>
          cases read
          exact ⟨rfl, by simp, by simp, by simp⟩
      | cons c input =>
          rw [readSlots] at read
          rcases bind_eq_ok_iff.mp read with ⟨⟨name, afterName⟩, readName, read⟩
          rcases bind_eq_ok_iff.mp read with ⟨⟨after, rest⟩, readAfter, read⟩
          rcases bind_eq_ok_iff.mp read with ⟨others, readRest, same⟩
          cases same
          rcases readName_eq_ok readName with ⟨rfl, name_braceless⟩
          rcases readLiteral_eq_ok readAfter with ⟨rfl, after_braceless, rest_opened⟩
          have rest_le : rest.length ≤ fuel := by
            simp only [List.length_cons, List.length_append] at enough
            omega
          rcases ih readRest rest_le rest_opened with ⟨rfl, slotsOf⟩
          refine ⟨?_, slotsOf.cons name_braceless after_braceless⟩
          simp [writeSlot, opened c rfl]

/-- A template that is read from a text writes it again, and no literal or name holds a brace. -/
theorem read_eq_ok {kindOf : String → SlotKind} {input : List Char} {template : Template}
    (read : Template.read kindOf input = .ok template) :
    template.write = input ∧ Braceless template.lead ∧ SlotsOf kindOf template.slots := by
  rcases bind_eq_ok_iff.mp read with ⟨⟨lead, rest⟩, readLead, read⟩
  rcases bind_eq_ok_iff.mp read with ⟨slots, readRest, same⟩
  cases same
  rcases readLiteral_eq_ok readLead with ⟨rfl, lead_braceless, opened⟩
  rcases readSlots_eq_ok readRest (Nat.le_refl _) opened with ⟨rfl, slotsOf⟩
  exact ⟨rfl, lead_braceless, slotsOf⟩

theorem read_of_compile {text : String} {operation : Api.Operation} {template : Template}
    (compiled : compile text operation = .ok template) :
    Template.read (slotKind operation) text.toList = .ok template := by
  simp only [compile] at compiled
  cases result : Template.read (slotKind operation) text.toList with
  | error fault => simp [result, Except.mapError] at compiled
  | ok other =>
      simp only [result, Except.mapError, Except.ok.injEq] at compiled
      rw [compiled]

theorem slotKind_eq_digits_iff {operation : Api.Operation} {name : String} :
    slotKind operation name = .digits ↔
      ∃ parameter, operation.declaredParameter? name = some parameter ∧
        parameter.type = .integer := by
  simp only [slotKind]
  cases operation.declaredParameter? name with
  | none => simp
  | some parameter => cases type : parameter.type <;> simp [type]

end Template

end ApiStub.Route
