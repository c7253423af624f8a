import ApiStub.Proofs.TemplateText

/-!
# The grammar of templates

A template is a concatenation of runs of text and of groups, which are names in braces; no run and
no name holds a brace, and a name may be empty. `Parts` says so without saying how to read. A text
can be read just when it has parts, and then the names of what is read are those of the groups,
whatever parts the text was cut into: two runs side by side are one literal.

One direction is `read_eq_ok`. For the other the parts are gathered into a template, which is read
back from what it writes.
-/

namespace ApiStub.Route

/-- A piece of a template. -/
inductive Part where
  /-- Text that stands for itself. -/
  | run (text : List Char)
  /-- A name in braces. -/
  | group (name : List Char)

namespace Part

/-- The part as it is written. -/
def written : Part → List Char
  | run text => text
  | group name => '{' :: name ++ ['}']

/-- The text of a run, or the name in a group. -/
def content : Part → List Char
  | run text => text
  | group name => name

/-- The name of a group. -/
def name? : Part → Option String
  | run _ => none
  | group name => some (String.ofList name)

end Part

/-- The text is a concatenation of these parts, in which no brace is left. -/
structure Parts (text : List Char) (parts : List Part) : Prop where
  braceless : ∀ part ∈ parts, Braceless part.content
  written : text = parts.flatMap Part.written

namespace Template

variable {kindOf : String → SlotKind}

/-! ## Reading what is written -/

theorem readLiteral_of_braceless {literal rest : List Char} (braceless : Braceless literal)
    (opened : ∀ c ∈ rest.head?, c = '{') :
    readLiteral (literal ++ rest) = .ok (literal, rest) := by
  have inside : ∀ c ∈ literal, (c != '{') = true := by
    intro c c_mem
    rw [bne_iff_ne]
    rintro rfl
    exact braceless.1 c_mem
  have stops : rest.takeWhile (· != '{') = [] ∧ rest.dropWhile (· != '{') = rest := by
    cases rest with
    | nil => exact ⟨rfl, rfl⟩
    | cons c rest => simp [opened c rfl]
  simp only [readLiteral, List.takeWhile_append_of_pos inside, List.dropWhile_append_of_pos inside,
    stops.1, stops.2, List.append_nil]
  rw [if_neg]
  simpa using braceless.2

theorem readName_of_braceless {name : List Char} (braceless : Braceless name) (rest : List Char) :
    readName (name ++ '}' :: rest) = .ok (name, rest) := by
  have inside : ∀ c ∈ name, (c != '}') = true := by
    intro c c_mem
    rw [bne_iff_ne]
    rintro rfl
    exact braceless.2 c_mem
  simp only [readName, List.takeWhile_append_of_pos inside, List.dropWhile_append_of_pos inside]
  simpa using braceless.1

theorem head?_flatMap_writeSlot (slots : List Slot) :
    ∀ c ∈ (slots.flatMap writeSlot).head?, c = '{' := by
  intro c c_mem
  cases slots with
  | nil => simp at c_mem
  | cons slot slots => simpa [writeSlot, eq_comm] using c_mem

theorem readSlots_flatMap_writeSlot {slots : List Slot} (slotsOf : SlotsOf kindOf slots) {fuel : Nat}
    (enough : (slots.flatMap writeSlot).length ≤ fuel) :
    readSlots kindOf fuel (slots.flatMap writeSlot) = .ok slots := by
  induction slots generalizing fuel with
  | nil => cases fuel <;> rfl
  | cons slot slots ih =>
      cases fuel with
      | zero => simp [writeSlot] at enough
      | succ fuel =>
          have name_braceless := slotsOf.name slot List.mem_cons_self
          have after_braceless := slotsOf.after slot List.mem_cons_self
          have kind_eq := slotsOf.kind slot List.mem_cons_self
          have others : SlotsOf kindOf slots :=
            ⟨fun other mem => slotsOf.name other (List.mem_cons_of_mem _ mem),
              fun other mem => slotsOf.after other (List.mem_cons_of_mem _ mem),
              fun other mem => slotsOf.kind other (List.mem_cons_of_mem _ mem)⟩
          have left : (slots.flatMap writeSlot).length ≤ fuel := by
            simp [writeSlot] at enough ⊢
            omega
          have split : (slot :: slots).flatMap writeSlot =
              '{' :: (slot.name ++ '}' :: (slot.after ++ slots.flatMap writeSlot)) := by
            simp [writeSlot]
          rw [split, readSlots]
          refine bind_eq_ok_iff.mpr ⟨_, readName_of_braceless name_braceless _, ?_⟩
          refine bind_eq_ok_iff.mpr
            ⟨_, readLiteral_of_braceless after_braceless (head?_flatMap_writeSlot slots), ?_⟩
          refine bind_eq_ok_iff.mpr ⟨_, ih others left, ?_⟩
          rw [← kind_eq]

/-- Reading accepts exactly what is written of templates that hold no brace, and gives them back. -/
theorem read_eq_ok_iff {input : List Char} {template : Template} :
    Template.read kindOf input = .ok template ↔
      template.write = input ∧ Braceless template.lead ∧ SlotsOf kindOf template.slots := by
  constructor
  · exact read_eq_ok
  · rintro ⟨rfl, lead_braceless, slotsOf⟩
    refine bind_eq_ok_iff.mpr
      ⟨_, readLiteral_of_braceless lead_braceless (head?_flatMap_writeSlot _), ?_⟩
    exact bind_eq_ok_iff.mpr ⟨_, readSlots_flatMap_writeSlot slotsOf (Nat.le_refl _), rfl⟩

/-! ## Parts -/

/-- The template of a list of parts: runs side by side become one literal. -/
def ofParts (kindOf : String → SlotKind) : List Part → Template
  | [] => ⟨[], []⟩
  | .run text :: parts =>
    let rest := ofParts kindOf parts
    ⟨text ++ rest.lead, rest.slots⟩
  | .group name :: parts =>
    let rest := ofParts kindOf parts
    ⟨[], ⟨name, kindOf (String.ofList name), rest.lead⟩ :: rest.slots⟩

/-- The parts of a template: its literals and its slots in turn. -/
def parts (template : Template) : List Part :=
  .run template.lead :: template.slots.flatMap fun slot => [.group slot.name, .run slot.after]

theorem write_ofParts (parts : List Part) :
    (ofParts kindOf parts).write = parts.flatMap Part.written := by
  induction parts with
  | nil => rfl
  | cons part parts ih =>
      rw [List.flatMap_cons, ← ih]
      cases part with
      | run text => simp [ofParts, write, Part.written]
      | group name => simp [ofParts, write, writeSlot, Part.written]

theorem names_ofParts (parts : List Part) :
    (ofParts kindOf parts).names = parts.filterMap Part.name? := by
  induction parts with
  | nil => rfl
  | cons part parts ih =>
      cases part with
      | run text => simpa [ofParts, names, List.filterMap_cons, Part.name?] using ih
      | group name => simpa [ofParts, names, Part.name?] using ih

theorem braceless_ofParts {parts : List Part} (braceless : ∀ part ∈ parts, Braceless part.content) :
    Braceless (ofParts kindOf parts).lead ∧ SlotsOf kindOf (ofParts kindOf parts).slots := by
  induction parts with
  | nil => exact ⟨⟨by simp [ofParts], by simp [ofParts]⟩, by simp [ofParts], by simp [ofParts],
      by simp [ofParts]⟩
  | cons part parts ih =>
      rcases List.forall_mem_cons.mp braceless with ⟨first, others⟩
      rcases ih others with ⟨lead_braceless, slotsOf⟩
      cases part with
      | run text =>
          refine ⟨⟨?_, ?_⟩, slotsOf⟩
          · simpa [ofParts] using ⟨first.1, lead_braceless.1⟩
          · simpa [ofParts] using ⟨first.2, lead_braceless.2⟩
      | group name =>
          exact ⟨⟨by simp [ofParts], by simp [ofParts]⟩, slotsOf.cons first lead_braceless⟩

/-- Whatever parts a text is cut into, the template of the parts is read from it. -/
theorem read_of_parts {input : List Char} {parts : List Part} (cut : Parts input parts) :
    Template.read kindOf input = .ok (ofParts kindOf parts) := by
  rw [read_eq_ok_iff, write_ofParts, ← cut.written]
  exact ⟨rfl, braceless_ofParts cut.braceless⟩

theorem parts_of_read {input : List Char} {template : Template}
    (read : Template.read kindOf input = .ok template) : Parts input template.parts := by
  rcases read_eq_ok read with ⟨rfl, lead_braceless, slotsOf⟩
  refine ⟨?_, ?_⟩
  · refine List.forall_mem_cons.mpr ⟨lead_braceless, ?_⟩
    intro part part_mem
    rcases List.mem_flatMap.mp part_mem with ⟨slot, slot_mem, inside⟩
    simp only [List.mem_cons, List.not_mem_nil, or_false] at inside
    rcases inside with rfl | rfl
    · exact slotsOf.name slot slot_mem
    · exact slotsOf.after slot slot_mem
  · have slot_written (slot : Slot) : writeSlot slot =
        ([.group slot.name, .run slot.after] : List Part).flatMap Part.written := by
      simp [writeSlot, Part.written]
    rw [write, parts, List.flatMap_cons, List.flatMap_assoc, funext slot_written]
    rfl

/-! ## Compiling -/

theorem compile_eq (text : String) (operation : Api.Operation) :
    compile text operation = (Template.read (slotKind operation) text.toList).mapError (⟨text, ·⟩) :=
  rfl

theorem exists_compile_iff (text : String) (operation : Api.Operation) :
    (∃ template, compile text operation = .ok template) ↔
      ∃ parts, Parts text.toList parts := by
  constructor
  · rintro ⟨template, compiled⟩
    exact ⟨_, parts_of_read (read_of_compile compiled)⟩
  · rintro ⟨parts, cut⟩
    refine ⟨ofParts (slotKind operation) parts, ?_⟩
    rw [compile_eq, read_of_parts cut]
    rfl

/-- A template compiles just when its text is cut into runs and groups without a brace in them; any
other text is refused as a template with a fault. What is compiled writes the text again, literal by
literal and name by name, its names are those of the groups in their order, and it is the literal
text itself just when there is no group. -/
theorem compile_grammar (text : String) (operation : Api.Operation) :
    ((∃ template, compile text operation = .ok template) ↔ ∃ parts, Parts text.toList parts) ∧
      (∀ template parts, compile text operation = .ok template → Parts text.toList parts →
        template.names = parts.filterMap Part.name? ∧
          template.lead ++ template.slots.flatMap writeSlot = text.toList ∧
          (template.isLiteral = true ↔ parts.filterMap Part.name? = []) ∧
          (template = ofLiteral text ↔ parts.filterMap Part.name? = [])) ∧
      ((¬∃ parts, Parts text.toList parts) →
        ∃ fault, compile text operation = .error ⟨text, fault⟩) := by
  refine ⟨exists_compile_iff text operation, ?_, ?_⟩
  · intro template parts compiled cut
    have read := read_of_compile compiled
    have written := (read_eq_ok read).1
    have names_eq : template.names = parts.filterMap Part.name? := by
      rw [read_of_parts cut] at read
      cases read
      exact names_ofParts parts
    have literal : template.isLiteral = true ↔ template.names = [] := by
      rw [isLiteral, List.isEmpty_iff, names, List.map_eq_nil_iff]
    refine ⟨names_eq, written, by rw [literal, names_eq], ?_⟩
    rw [← names_eq, ← literal]
    constructor
    · rintro rfl
      rfl
    · intro bare
      rw [isLiteral, List.isEmpty_iff] at bare
      rcases template with ⟨lead, slots⟩
      subst bare
      rw [ofLiteral, ← written]
      simp [write]
  · intro uncut
    cases result : compile text operation with
    | ok template => exact absurd ((exists_compile_iff text operation).mp ⟨template, result⟩) uncut
    | error error =>
        rw [compile_eq] at result
        cases read : Template.read (slotKind operation) text.toList with
        | ok template => simp [read, Except.mapError] at result
        | error fault =>
            simp only [read, Except.mapError, Except.error.injEq] at result
            exact ⟨fault, by rw [result]⟩

/-- The first closing brace ends a name, so the second one has nothing to close. -/
example : compile "/\x7bid\x7d\x7d" { method := ⟨"GET"⟩ } =
    .error ⟨"/\x7bid\x7d\x7d", .unmatched⟩ := rfl

end Template

end ApiStub.Route
