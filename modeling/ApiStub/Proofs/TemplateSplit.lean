import Mathlib.Data.List.Lex
import ApiStub.Proofs.TemplateText

/-!
# The pieces of a path

A path fits a template when it can be written as the literals of the template with one piece for
each slot between them, every piece being one that its slot takes. `Splits` says so without saying
how to search. Of several ways to split a path, the search finds the one with the longest first
piece, then the longest second piece, and so on; `List.Lex` over `Longer` is that preference.

Both directions follow the slots: what a search answers is a split, and beside any split of the rest
the search for the longest piece finds a piece at least as long.
-/

namespace ApiStub.Route

/-- The pieces a slot takes: digits for a number, and anything without a slash else. -/
def Slot.Takes (slot : Slot) (piece : List Char) : Prop :=
  piece ≠ [] ∧
    match slot.kind with
    | .digits => ∀ c ∈ piece, '0' ≤ c ∧ c ≤ '9'
    | .token => '/' ∉ piece

/-- The first piece is the longer one. -/
def Longer (first second : List Char) : Prop := second.length < first.length

theorem SlotKind.admits_digits_iff {c : Char} :
    SlotKind.digits.admits c = true ↔ '0' ≤ c ∧ c ≤ '9' := by
  simp [SlotKind.admits, Char.isDigit, Char.le_def]

theorem Slot.takes_iff {slot : Slot} {piece : List Char} :
    slot.Takes piece ↔ piece ≠ [] ∧ ∀ c ∈ piece, slot.kind.admits c = true := by
  simp only [Takes]
  cases slot.kind with
  | digits => simp only [SlotKind.admits_digits_iff]
  | token =>
      refine and_congr_right fun _ => ?_
      simp only [SlotKind.admits, bne_iff_ne]
      exact ⟨fun absent c inside same => absent (same ▸ inside),
        fun differ inside => differ _ inside rfl⟩

instance : Std.Asymm Longer where
  asymm _ _ first second := Nat.lt_asymm first second

theorem Slot.takes_take {slot : Slot} {path : List Char} {length : Nat} (positive : 0 < length)
    (le_stretch : length ≤ (path.takeWhile slot.kind.admits).length) :
    slot.Takes (path.take length) := by
  have stretch := List.takeWhile_prefix slot.kind.admits (l := path)
  have le_path := stretch.length_le
  refine Slot.takes_iff.mpr ⟨?_, ?_⟩
  · intro empty
    have length_zero := congrArg List.length empty
    rw [List.length_take, List.length_nil] at length_zero
    omega
  · intro c c_mem
    have taken : path.take length <+: path.takeWhile slot.kind.admits := by
      refine List.prefix_of_prefix_length_le (List.take_prefix _ _) stretch ?_
      rw [List.length_take]
      omega
    exact List.mem_takeWhile_imp (taken.subset c_mem)

theorem Slot.Takes.length_le {slot : Slot} {piece : List Char} (takes : slot.Takes piece)
    (rest : List Char) :
    0 < piece.length ∧ piece.length ≤ ((piece ++ rest).takeWhile slot.kind.admits).length := by
  rcases Slot.takes_iff.mp takes with ⟨nonempty, admitted⟩
  refine ⟨List.length_pos_iff.mpr nonempty, ?_⟩
  rw [List.takeWhile_append_of_pos admitted, List.length_append]
  omega

namespace Template

/-- The pieces and the literals after them, one after the other. -/
def fillSlots : List Slot → List (List Char) → List Char
  | slot :: slots, piece :: pieces => piece ++ slot.after ++ fillSlots slots pieces
  | _, _ => []

/-- The path that has these pieces in the places of the slots. -/
def fill (template : Template) (pieces : List (List Char)) : List Char :=
  template.lead ++ fillSlots template.slots pieces

/-- The path is the template with these pieces in the places of its slots, each taken by its
slot. -/
structure Splits (template : Template) (path : List Char) (pieces : List (List Char)) : Prop where
  takes : List.Forall₂ Slot.Takes template.slots pieces
  filled : path = template.fill pieces

theorem strip?_eq_some_iff {literal path rest : List Char} :
    strip? literal path = some rest ↔ path = literal ++ rest := by
  induction literal generalizing path with
  | nil => simp [strip?, eq_comm]
  | cons c literal ih =>
      cases path with
      | nil => simp [strip?]
      | cons d path =>
          by_cases same : c = d
          · simp [strip?, same, ih]
          · simp [strip?, same, Ne.symm same]

theorem longest?_eq_some {α : Type} {attempt : Nat → Option α} {bound : Nat} {result : α}
    (found : longest? attempt bound = some result) :
    ∃ length, 0 < length ∧ length ≤ bound ∧ attempt length = some result := by
  induction bound with
  | zero => cases found
  | succ bound ih =>
      rw [longest?] at found
      split at found
      · rename_i other success
        cases found
        exact ⟨bound + 1, by omega, by omega, success⟩
      · rcases ih found with ⟨length, positive, le_bound, success⟩
        exact ⟨length, positive, by omega, success⟩

/-- Where some length has a result, one at least as long is found. -/
theorem longest?_of_attempt {α : Type} {attempt : Nat → Option α} {bound length : Nat} {result : α}
    (positive : 0 < length) (le_bound : length ≤ bound) (success : attempt length = some result) :
    ∃ found other, longest? attempt bound = some other ∧ attempt found = some other ∧
      length ≤ found ∧ found ≤ bound := by
  induction bound with
  | zero => omega
  | succ bound ih =>
      rw [longest?]
      split
      · rename_i other here
        exact ⟨bound + 1, other, rfl, here, le_bound, Nat.le_refl _⟩
      · rename_i missed
        have shorter : length ≤ bound := by
          rcases Nat.lt_or_eq_of_le le_bound with less | equal
          · omega
          · rw [← equal, success] at missed
            cases missed
        rcases ih shorter with ⟨found, other, searched, attempted, least, most⟩
        exact ⟨found, other, searched, attempted, least, by omega⟩

/-- The pieces of a path of which the first has the given length. -/
def withFirst? (slot : Slot) (slots : List Slot) (path : List Char) (length : Nat) :
    Option (List (List Char)) :=
  (strip? slot.after (path.drop length)).bind fun rest =>
    (slotPieces? slots rest).map (path.take length :: ·)

theorem slotPieces?_cons {slot : Slot} {slots : List Slot} {path : List Char} :
    slotPieces? (slot :: slots) path =
      longest? (withFirst? slot slots path) (path.takeWhile slot.kind.admits).length := rfl

theorem withFirst?_eq_some_iff {slot : Slot} {slots : List Slot} {path : List Char} {length : Nat}
    {pieces : List (List Char)} :
    withFirst? slot slots path length = some pieces ↔
      ∃ rest others, path.drop length = slot.after ++ rest ∧
        slotPieces? slots rest = some others ∧ pieces = path.take length :: others := by
  simp only [withFirst?, Option.bind_eq_some_iff, Option.map_eq_some_iff, strip?_eq_some_iff]
  constructor
  · rintro ⟨rest, stripped, others, searched, rfl⟩
    exact ⟨rest, others, stripped, searched, rfl⟩
  · rintro ⟨rest, others, stripped, searched, rfl⟩
    exact ⟨rest, stripped, others, searched, rfl⟩

theorem slotPieces?_sound {slots : List Slot} {path : List Char} {pieces : List (List Char)}
    (found : slotPieces? slots path = some pieces) :
    List.Forall₂ Slot.Takes slots pieces ∧ path = fillSlots slots pieces := by
  induction slots generalizing path pieces with
  | nil =>
      simp only [slotPieces?] at found
      split at found
      · rename_i empty
        cases found
        exact ⟨.nil, List.isEmpty_iff.mp empty⟩
      · cases found
  | cons slot slots ih =>
      rw [slotPieces?_cons] at found
      rcases longest?_eq_some found with ⟨length, positive, le_stretch, attempted⟩
      rcases withFirst?_eq_some_iff.mp attempted with ⟨rest, others, stripped, searched, rfl⟩
      rcases ih searched with ⟨takes, rfl⟩
      refine ⟨.cons (Slot.takes_take positive le_stretch) takes, ?_⟩
      rw [fillSlots, List.append_assoc, ← stripped, List.take_append_drop]

/-- Beside any split the search finds one that is the same or preferred to it. -/
theorem slotPieces?_complete {slots : List Slot} {other : List (List Char)}
    (takes : List.Forall₂ Slot.Takes slots other) :
    ∃ pieces, slotPieces? slots (fillSlots slots other) = some pieces ∧
      (other = pieces ∨ List.Lex Longer pieces other) := by
  induction takes with
  | nil => exact ⟨[], rfl, Or.inl rfl⟩
  | @cons slot piece slots others slotTakes takes ih =>
      rcases ih with ⟨rest, searched, preferred⟩
      rw [fillSlots, slotPieces?_cons, List.append_assoc]
      rcases slotTakes.length_le (slot.after ++ fillSlots slots others) with
        ⟨positive, le_stretch⟩
      have success : withFirst? slot slots (piece ++ (slot.after ++ fillSlots slots others))
          piece.length = some (piece :: rest) := by
        refine withFirst?_eq_some_iff.mpr ⟨fillSlots slots others, rest, ?_, searched, ?_⟩
        · rw [List.drop_left]
        · rw [List.take_left]
      rcases longest?_of_attempt positive le_stretch success with
        ⟨found, pieces, longest, attempted, least, most⟩
      refine ⟨pieces, longest, ?_⟩
      rcases Nat.eq_or_lt_of_le least with same | longer
      · -- The piece itself is the longest one, so the rest decides.
        rw [← same, success] at attempted
        cases attempted
        rcases preferred with rfl | preferred
        · exact Or.inl rfl
        · exact Or.inr (.cons preferred)
      · rcases withFirst?_eq_some_iff.mp attempted with ⟨_, _, _, _, rfl⟩
        refine Or.inr (.rel ?_)
        have stretch := (List.takeWhile_prefix slot.kind.admits
          (l := piece ++ (slot.after ++ fillSlots slots others))).length_le
        simp only [Longer]
        rw [List.length_take]
        omega

theorem splits_of_pieces? {template : Template} {path : List Char} {pieces : List (List Char)}
    (search : template.pieces? path = some pieces) : template.Splits path pieces := by
  rcases Option.bind_eq_some_iff.mp search with ⟨rest, stripped, searched⟩
  rw [strip?_eq_some_iff] at stripped
  rcases slotPieces?_sound searched with ⟨takes, filled⟩
  exact ⟨takes, by rw [stripped, filled, fill]⟩

theorem pieces?_of_splits {template : Template} {path : List Char} {other : List (List Char)}
    (split : template.Splits path other) :
    ∃ pieces, template.pieces? path = some pieces ∧
      (other = pieces ∨ List.Lex Longer pieces other) := by
  rcases slotPieces?_complete split.takes with ⟨pieces, searched, preferred⟩
  refine ⟨pieces, ?_, preferred⟩
  rw [split.filled, pieces?, fill, strip?_eq_some_iff.mpr rfl]
  exact searched

theorem exists_pieces?_iff {template : Template} {path : List Char} :
    (∃ pieces, template.pieces? path = some pieces) ↔ ∃ pieces, template.Splits path pieces := by
  constructor
  · rintro ⟨pieces, search⟩
    exact ⟨pieces, splits_of_pieces? search⟩
  · rintro ⟨pieces, split⟩
    rcases pieces?_of_splits split with ⟨found, search, -⟩
    exact ⟨found, search⟩

/-- The search finds the preferred one among the splits of a path. -/
theorem pieces?_eq_some_iff {template : Template} {path : List Char} {pieces : List (List Char)} :
    template.pieces? path = some pieces ↔
      template.Splits path pieces ∧
        ∀ other, template.Splits path other → other = pieces ∨ List.Lex Longer pieces other := by
  constructor
  · intro search
    refine ⟨splits_of_pieces? search, ?_⟩
    intro other split
    rcases pieces?_of_splits split with ⟨found, again, preferred⟩
    rw [search] at again
    cases again
    exact preferred
  · rintro ⟨split, best⟩
    rcases pieces?_of_splits split with ⟨found, search, same | preferred⟩
    · rw [search, same]
    · -- What is found and `pieces` would each be preferred to the other.
      rcases best found (splits_of_pieces? search) with same | other
      · rw [search, same]
      · exact absurd other (asymm preferred)

/-- Of a compiled template the literals and names are those of its text, a slot takes digits just
when an integer is declared for it, and of the ways to split a path the preferred one is found. -/
theorem pieces?_of_compile {text : String} {operation : Api.Operation} {template : Template}
    (compiled : compile text operation = .ok template) :
    template.text = text ∧ Braceless template.lead ∧
      (∀ slot ∈ template.slots, Braceless slot.name ∧ Braceless slot.after ∧
        (slot.kind = .digits ↔
          ∃ parameter, operation.declaredParameter? (String.ofList slot.name) = some parameter ∧
            parameter.type = .integer)) ∧
      ∀ path : String,
        ((∃ pieces, template.pieces? path.toList = some pieces) ↔
          ∃ pieces, template.Splits path.toList pieces) ∧
        ∀ pieces, template.pieces? path.toList = some pieces →
          template.Splits path.toList pieces ∧
            String.ofList (template.fill pieces) = path ∧
            pieces.length = template.names.length ∧
            ∀ other, template.Splits path.toList other →
              other = pieces ∨ List.Lex Longer pieces other := by
  rcases read_eq_ok (read_of_compile compiled) with ⟨written, lead_braceless, slotsOf⟩
  refine ⟨?_, lead_braceless, ?_, ?_⟩
  · rw [Template.text, written, String.ofList_toList]
  · intro slot slot_mem
    refine ⟨slotsOf.name slot slot_mem, slotsOf.after slot slot_mem, ?_⟩
    rw [slotsOf.kind slot slot_mem]
    exact slotKind_eq_digits_iff
  · intro path
    refine ⟨exists_pieces?_iff, ?_⟩
    intro pieces search
    rcases pieces?_eq_some_iff.mp search with ⟨split, best⟩
    refine ⟨split, ?_, ?_, best⟩
    · rw [← split.filled, String.ofList_toList]
    · rw [names, List.length_map]
      exact split.takes.length_eq.symm

/-- Of two slots side by side the first takes all digits but the one that the second needs. -/
theorem pieces?_of_compile_adjacent :
    ∃ template, compile "/v.{major}{rest}"
        { method := .get, parameters := [⟨"major", .path, .integer, true⟩] } = .ok template ∧
      template.pieces? "/v.123".toList = some [['1', '2'], ['3']] ∧
      template.Splits "/v.123".toList [['1'], ['2', '3']] ∧
      List.Lex Longer [['1', '2'], ['3']] [['1'], ['2', '3']] := by
  have compiled : compile "/v.{major}{rest}"
      { method := .get, parameters := [⟨"major", .path, .integer, true⟩] } =
      .ok ⟨"/v.".toList, [⟨"major".toList, .digits, []⟩, ⟨"rest".toList, .token, []⟩]⟩ := rfl
  have search : Template.pieces?
      ⟨"/v.".toList, [⟨"major".toList, .digits, []⟩, ⟨"rest".toList, .token, []⟩]⟩
      "/v.123".toList = some [['1', '2'], ['3']] := rfl
  have shorter : Template.Splits
      ⟨"/v.".toList, [⟨"major".toList, .digits, []⟩, ⟨"rest".toList, .token, []⟩]⟩
      "/v.123".toList [['1'], ['2', '3']] := by
    refine ⟨.cons ?_ (.cons ?_ .nil), rfl⟩
    · exact Slot.takes_iff.mpr ⟨by simp, by simp [SlotKind.admits]⟩
    · exact Slot.takes_iff.mpr ⟨by simp, by simp [SlotKind.admits]⟩
  rcases pieces?_of_compile compiled with ⟨-, -, -, found⟩
  rcases (found "/v.123").2 _ search with ⟨-, -, -, best⟩
  refine ⟨_, compiled, search, shorter, ?_⟩
  rcases best _ shorter with same | preferred
  · exact absurd same (by decide)
  · exact preferred

end Template

end ApiStub.Route
