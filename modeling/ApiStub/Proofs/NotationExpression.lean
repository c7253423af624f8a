import ApiStub.Proofs.Notation
import ApiStub.Regex.Size
import Mathlib.Data.List.TakeWhile

/-!
# The expression of a notation

When the text of a tree is read as a regular expression, what is read is the expression of the
tree. The reader may refuse the text, since a number of more than 32 bits is none of its numbers;
so the statements begin from a reading that succeeded, and say on the way that all numbers fit.
-/

namespace ApiStub.Notation

open Regex (CharClass)

/-! ## Characters -/

/-- The text does not begin with a quantifier. -/
def Calm (text : List Char) : Prop := ∀ c ∈ text.head?, Regex.isQuantifier c = false

theorem Calm.cons {c : Char} (quiet : Regex.isQuantifier c = false) (text : List Char) :
    Calm (c :: text) := by
  intro other other_mem
  cases Option.mem_some.mp other_mem
  exact quiet

theorem isQuantifier_of_plain {c : Char} (plain : c ∉ structural) :
    Regex.isQuantifier c = false := by
  simp only [structural, List.mem_cons, not_or] at plain
  simp [Regex.isQuantifier, plain]

theorem Atom.isQuantifier_head (atom : Atom) : Regex.isQuantifier atom.head = false := by
  cases atom with
  | anchor finish => cases finish <;> rfl
  | literal c plain => exact isQuantifier_of_plain plain
  | _ => rfl

theorem Atom.head_ne (atom : Atom) : atom.head ≠ '|' ∧ atom.head ≠ ')' := by
  cases atom with
  | anchor finish => cases finish <;> decide
  | literal c plain =>
      simp only [structural, List.mem_cons, not_or] at plain
      simp [Atom.head, plain]
  | _ => simp [Atom.head]

theorem Sequence.calm_text (sequence : Sequence) {rest : List Char} (calm : Calm rest) :
    Calm (sequence.text ++ rest) := by
  cases sequence with
  | nil => exact calm
  | cons atom quantifier others => exact Calm.cons atom.isQuantifier_head _

theorem Branches.calm_text (branches : Branches) {rest : List Char} (calm : Calm rest) :
    Calm (branches.text ++ rest) := by
  cases branches with
  | last sequence => exact sequence.calm_text calm
  | more sequence others =>
      rw [Branches.text, List.append_assoc]
      exact sequence.calm_text (Calm.cons rfl _)

theorem calm_of_closing {rest : List Char} (closing : ∀ c ∈ rest.head?, c = '|' ∨ c = ')') :
    Calm rest := by
  intro c c_mem
  rcases closing c c_mem with rfl | rfl <;> rfl

/-! ## Numbers -/

theorem isBlank_of_isDigit {c : Char} (digit : c.isDigit) : Text.isBlank c = false := by
  simp only [Char.isDigit, Bool.and_eq_true, decide_eq_true_eq] at digit
  have lower : 48 ≤ c.toNat := digit.1
  have upper : c.toNat ≤ 57 := digit.2
  simp only [Text.isBlank]
  grind

theorem Numeral.takeWhile_digits (numeral : Numeral) {c : Char} (stop : c.isDigit = false)
    (rest : List Char) :
    (numeral.digits ++ c :: rest).takeWhile Char.isDigit = numeral.digits := by
  rw [List.takeWhile_append_of_pos numeral.decimal, List.takeWhile_cons_of_neg (by simp [stop]),
    List.append_nil]

theorem Numeral.dropWhile_digits (numeral : Numeral) {c : Char} (stop : c.isDigit = false)
    (rest : List Char) :
    (numeral.digits ++ c :: rest).dropWhile Char.isDigit = c :: rest := by
  rw [List.dropWhile_append_of_pos numeral.decimal, List.dropWhile_cons_of_neg (by simp [stop])]

/-- A number is read when it has 32 bits. -/
theorem Numeral.readNumber_eq_some {numeral : Numeral} {c : Char} (stop : c.isDigit = false)
    (solid : Text.isBlank c = false) {rest : List Char} {result : Nat × List Char}
    (read : Regex.readNumber (numeral.digits ++ c :: rest) = some result) :
    numeral.value < 2 ^ 32 ∧ result = (numeral.value, c :: rest) := by
  have unblanked : (numeral.digits ++ c :: rest).dropWhile Text.isBlank =
      numeral.digits ++ c :: rest := by
    rcases numeral with ⟨_ | ⟨digit, digits⟩, nonempty, decimal⟩
    · exact absurd rfl nonempty
    · exact List.dropWhile_cons_of_neg (by
        simp [isBlank_of_isDigit (decimal digit List.mem_cons_self)])
  simp only [Regex.readNumber, unblanked, numeral.takeWhile_digits stop,
    numeral.dropWhile_digits stop] at read
  split at read
  · cases read
  · rename_i small
    simp only [Bool.or_eq_true, decide_eq_true_eq, not_or, Nat.not_le] at small
    rw [List.dropWhile_cons_of_neg (by simp [solid])] at read
    exact ⟨small.2, (Option.some.inj read).symm⟩

/-! ## Quantifiers -/

theorem quantify_of_calm {rest : List Char} (calm : Calm rest) (fuel : Nat) (atom : Regex) :
    Regex.quantify (fuel + 1) atom rest = some (atom, rest) := by
  cases rest with
  | nil => rfl
  | cons c rest => simp [Regex.quantify, calm c rfl]

theorem readCounts_eq_some {least : Numeral} {rest : List Char} {result} {c : Char}
    (stop : c.isDigit = false) (solid : Text.isBlank c = false)
    (read : Regex.readCounts (least.digits ++ c :: rest) = some result) :
    least.value < 2 ^ 32 ∧ (match c :: rest with
      | '}' :: rest => some ((least.value, some least.value), rest)
      | ',' :: '}' :: rest => some ((least.value, none), rest)
      | ',' :: rest => do
        let (greatest, rest) ← Regex.readNumber rest
        match rest with
        | '}' :: rest =>
          if least.value ≤ greatest then some ((least.value, some greatest), rest) else none
        | _ => none
      | _ => none) = some result := by
  rcases Option.bind_eq_some_iff.mp read with ⟨number, numbered, bounded⟩
  rcases least.readNumber_eq_some stop solid numbered with ⟨fits, rfl⟩
  exact ⟨fits, bounded⟩

theorem Numeral.exists_cons (numeral : Numeral) :
    ∃ digit digits, numeral.digits = digit :: digits ∧ digit.isDigit := by
  rcases numeral with ⟨_ | ⟨digit, digits⟩, nonempty, decimal⟩
  · exact absurd rfl nonempty
  · exact ⟨digit, digits, rfl, decimal digit List.mem_cons_self⟩

theorem Counts.quantify_eq_some {counts : Counts} {fuel : Nat} {atom : Regex} {rest : List Char}
    {result : Regex × List Char}
    (read : Regex.quantify (fuel + 1) atom (counts.text ++ rest) = some result) :
    counts.Fits ∧ Regex.quantify fuel (.repetition atom counts.limits.1 counts.limits.2)
      (Regex.skipLazy rest) = some result := by
  cases counts with
  | star => exact ⟨trivial, read⟩
  | plus => exact ⟨trivial, read⟩
  | optional => exact ⟨trivial, read⟩
  | exactly count =>
      rw [Counts.text, List.cons_append, List.append_assoc] at read
      rcases Option.bind_eq_some_iff.mp read with ⟨limits, counted, repeated⟩
      rcases readCounts_eq_some rfl rfl counted with ⟨fits, bounded⟩
      cases bounded
      exact ⟨fits, repeated⟩
  | atLeast least =>
      rw [Counts.text, List.cons_append, List.append_assoc] at read
      rcases Option.bind_eq_some_iff.mp read with ⟨limits, counted, repeated⟩
      rcases readCounts_eq_some rfl rfl counted with ⟨fits, bounded⟩
      cases bounded
      exact ⟨fits, repeated⟩
  | between least greatest ordered =>
      rw [Counts.text, List.cons_append, List.append_assoc, List.cons_append,
        List.append_assoc] at read
      rcases Option.bind_eq_some_iff.mp read with ⟨limits, counted, repeated⟩
      rcases readCounts_eq_some rfl rfl counted with ⟨fits, bounded⟩
      rcases greatest.exists_cons with ⟨digit, digits, greatest_eq, decimal⟩
      have number_ne : digit ≠ '}' := by
        rintro rfl
        cases decimal
      have bounded : (do
          let (greatest, rest) ← Regex.readNumber (greatest.digits ++ '}' :: rest)
          match rest with
          | '}' :: rest =>
            if least.value ≤ greatest then some ((least.value, some greatest), rest) else none
          | _ => none) = some limits := by
        rw [greatest_eq] at bounded ⊢
        simpa [number_ne] using bounded
      rcases Option.bind_eq_some_iff.mp bounded with ⟨upper, numbered, closed⟩
      rcases greatest.readNumber_eq_some rfl rfl numbered with ⟨upper_fits, rfl⟩
      simp only [ordered, if_true] at closed
      cases closed
      exact ⟨⟨fits, upper_fits⟩, repeated⟩

/-- An atom is read with its quantifier, which is one at most. -/
theorem quantify_eq_some {quantifier : Option Quantifier} {fuel : Nat} {atom : Regex}
    {rest : List Char} (calm : Calm rest) {result : Regex × List Char}
    (read : Regex.quantify fuel atom (markText quantifier ++ rest) = some result) :
    (∀ q ∈ quantifier, q.counts.Fits) ∧ result = (repeatedExpression quantifier atom, rest) := by
  rcases fuel with _ | fuel
  · cases read
  rcases quantifier with _ | ⟨counts, lazily⟩
  · rw [show markText none = [] from rfl, List.nil_append, quantify_of_calm calm] at read
    exact ⟨by simp, (Option.some.inj read).symm⟩
  · simp only [markText, Option.map_some, Option.getD_some, Quantifier.text,
      List.append_assoc] at read
    rcases counts.quantify_eq_some read with ⟨fits, repeated⟩
    have skipped : Regex.skipLazy ((if lazily then ['?'] else []) ++ rest) = rest := by
      cases lazily with
      | true => rfl
      | false =>
          rcases rest with _ | ⟨c, rest⟩
          · rfl
          · have quiet := calm c rfl
            simp only [Regex.isQuantifier] at quiet
            simp only [Bool.false_eq_true, if_false, List.nil_append, Regex.skipLazy]
            grind
    rw [skipped] at repeated
    rcases fuel with _ | fuel
    · cases repeated
    · rw [quantify_of_calm calm] at repeated
      exact ⟨by simpa using fits, (Option.some.inj repeated).symm⟩

/-! ## Classes -/

theorem readMember_of_plain {c : Char} (plain : c ∉ classStructural) (rest : List Char) :
    Regex.readMember (c :: rest) = some (.literal c, rest) := by
  simp only [classStructural, List.mem_cons, not_or] at plain
  simp only [Regex.readMember]
  split <;> simp_all

/-- An item is read when the next character makes no range of it. -/
theorem Item.readRange_text (item : Item) {c : Char} (next : c ≠ '-') (rest : List Char) :
    Regex.readRange (item.text ++ c :: rest) = some (item.charClass, c :: rest) := by
  cases item with
  | single first plain =>
      simp only [text, List.cons_append, List.nil_append, Regex.readRange,
        readMember_of_plain plain, Option.bind_eq_bind, Option.bind_some]
      simp [next, Regex.Member.toClass, charClass]
  | range least greatest least_plain greatest_plain ordered =>
      simp only [text, List.cons_append, List.nil_append, Regex.readRange,
        readMember_of_plain least_plain, Option.bind_eq_bind, Option.bind_some]
      have plain := greatest_plain
      simp only [classStructural, List.mem_cons, not_or] at plain
      simp [plain, readMember_of_plain greatest_plain, charClass, Char.not_lt.mpr ordered]
  | shorthand kind =>
      cases kind <;>
        simp [text, Shorthand.letter, Regex.readRange, Regex.readMember, Regex.readEscape, next,
          Regex.Member.toClass, charClass, Shorthand.charClass]

/-- An item begins with a character that ends no class and joins no classes. -/
theorem Item.exists_text_eq (item : Item) : ∃ c rest, item.text = c :: rest ∧
    c ∉ [']', '[', '^', '-', '&', '~'] := by
  cases item with
  | single c plain =>
      simp only [classStructural, List.mem_cons, not_or] at plain
      exact ⟨c, [], rfl, by simp [plain]⟩
  | range least greatest least_plain greatest_plain ordered =>
      simp only [classStructural, List.mem_cons, not_or] at least_plain
      exact ⟨least, ['-', greatest], rfl, by simp [least_plain]⟩
  | shorthand kind => exact ⟨'\\', [kind.letter false], rfl, by decide⟩

theorem exists_itemsText_eq (items : List Item) (rest : List Char) :
    ∃ c others, items.flatMap Item.text ++ ']' :: rest = c :: others ∧ c ≠ '-' := by
  rcases items with _ | ⟨item, items⟩
  · exact ⟨']', rest, rfl, by decide⟩
  · rcases item.exists_text_eq with ⟨c, others, text_eq, plain⟩
    refine ⟨c, others ++ (items.flatMap Item.text ++ ']' :: rest), ?_, fun hyphen => ?_⟩
    · rw [List.flatMap_cons, text_eq, List.append_assoc]
      rfl
    · exact plain (by simp [hyphen])

theorem readContent_item {fuel : Nat} {members : List CharClass} (item : Item) {c : Char}
    (next : c ≠ '-') (rest : List Char) :
    Regex.readContent (fuel + 1) none members (item.text ++ c :: rest) =
      Regex.readContent fuel none (item.charClass :: members) (c :: rest) := by
  have range := item.readRange_text next rest
  rcases item.exists_text_eq with ⟨first, others, text_eq, plain⟩
  rw [text_eq] at range ⊢
  simp only [List.mem_cons, not_or] at plain
  rw [List.cons_append] at range ⊢
  rw [Regex.readContent, range]
  · rfl
  all_goals
    intros
    simp_all

theorem readContent_items {fuel : Nat} {members : List CharClass} (items : List Item)
    (rest : List Char) (enough : items.length < fuel) :
    Regex.readContent fuel none members (items.flatMap Item.text ++ ']' :: rest) =
      some (.ofMembers (members.reverse ++ items.map Item.charClass), rest) := by
  induction items generalizing fuel members with
  | nil =>
      rcases fuel with _ | fuel
      · cases enough
      · simp [Regex.readContent, Regex.joinPending]
  | cons item items ih =>
      rcases fuel with _ | fuel
      · cases enough
      · rcases exists_itemsText_eq items rest with ⟨c, others, text_eq, next⟩
        rw [List.flatMap_cons, List.append_assoc, text_eq, readContent_item item next,
          ← text_eq, ih (Nat.lt_of_succ_lt_succ enough)]
        simp

theorem length_le_itemsText (items : List Item) :
    items.length ≤ (items.flatMap Item.text).length := by
  induction items with
  | nil => exact Nat.le_refl 0
  | cons item items ih =>
      rcases item.exists_text_eq with ⟨c, rest, text_eq, -⟩
      rw [List.flatMap_cons, List.length_append, List.length_cons, text_eq, List.length_cons]
      omega

theorem openBracket_eq {c : Char} {rest : List Char} (plain : c ∉ [']', '[', '^', '-', '&', '~'])
    (negated : Bool) :
    Regex.openBracket ((if negated then ['^'] else []) ++ c :: rest) =
      (negated, [], c :: rest) := by
  simp only [List.mem_cons, not_or] at plain
  cases negated <;> simp [Regex.openBracket, Regex.leadingHyphens, plain]

theorem readBracket_text (negated : Bool) (first : Item) (others : List Item)
    (rest : List Char) :
    Regex.readBracket ((if negated then ['^'] else []) ++
        ((first :: others).flatMap Item.text ++ ']' :: rest)) =
      some (.bracket negated (.ofMembers ((first :: others).map Item.charClass)), rest) := by
  have enough := length_le_itemsText (first :: others)
  rcases first.exists_text_eq with ⟨c, text, text_eq, plain⟩
  have split : (first :: others).flatMap Item.text ++ ']' :: rest =
      c :: (text ++ (others.flatMap Item.text ++ ']' :: rest)) := by
    rw [List.flatMap_cons, text_eq, List.append_assoc]
    rfl
  simp only [Regex.readBracket]
  rw [split, openBracket_eq plain, ← split]
  simp only [List.reverse_nil]
  rw [readContent_items (first :: others) rest (by simp only [List.length_append]; omega)]
  rfl

/-! ## Trees -/

theorem readAtom_of_plain {c : Char} (plain : c ∉ structural) (fuel : Nat) (rest : List Char) :
    Regex.readAtom (fuel + 1) c rest = some (.chars (.single c), rest) := by
  simp only [structural, List.mem_cons, not_or] at plain
  rw [Regex.readAtom]
  all_goals
    intros
    simp_all

theorem readEscape_of_escapable {c : Char} (special : c ∈ escapable) (rest : List Char) :
    Regex.readEscape (c :: rest) = some (.literal c, rest) := by
  simp only [escapable, structural, List.mem_append, List.mem_cons, List.not_mem_nil,
    or_false] at special
  rcases special with
    (rfl | rfl | rfl | rfl | rfl | rfl | rfl | rfl | rfl | rfl | rfl | rfl | rfl | rfl) |
      rfl | rfl | rfl | rfl <;> rfl

theorem readSequence_cons {c : Char} (bar : c ≠ '|') (close : c ≠ ')')
    (quiet : Regex.isQuantifier c = false) (fuel : Nat) (rest : List Char) :
    Regex.readSequence (fuel + 1) (c :: rest) = (do
      let (atom, rest) ← Regex.readAtom fuel c rest
      let (part, rest) ← Regex.quantify (rest.length + 1) atom rest
      let (parts, rest) ← Regex.readSequence fuel rest
      some (part :: parts, rest)) := by
  rw [Regex.readSequence]
  · simp only [quiet, Bool.false_eq_true, if_false]
  all_goals
    intros
    simp_all

theorem readAtom_group {fuel : Nat} {body : List Char} (calm : Calm body) (captures : Bool) :
    Regex.readAtom (fuel + 1) '(' ((if captures then [] else ['?', ':']) ++ body) =
      Regex.readGroup fuel captures body := by
  cases captures with
  | false => rfl
  | true =>
      rcases body with _ | ⟨c, body⟩
      · rfl
      · have quiet := calm c rfl
        have plain : c ≠ '?' := by
          rintro rfl
          cases quiet
        simp only [if_true, List.nil_append]
        rw [Regex.readAtom]
        all_goals
          intros
          simp_all

mutual

/-- What is read of some branches is their expressions. -/
theorem Branches.read_eq_some : ∀ (branches : Branches) {fuel : Nat} {rest : List Char}
    {result : List Regex × List Char}, (∀ c ∈ rest.head?, c = ')') →
    Regex.readBranches fuel (branches.text ++ rest) = some result →
    branches.Fits ∧ result = (branches.expressions, rest)
  | _, 0, _, _, _, read => by cases read
  | .last sequence, fuel + 1, rest, result, closing, read => by
      rcases Option.bind_eq_some_iff.mp read with ⟨parts, sequenced, finished⟩
      rcases sequence.read_eq_some (fun c c_mem => .inr (closing c c_mem)) sequenced with
        ⟨fits, rfl⟩
      rcases rest with _ | ⟨c, rest⟩
      · exact ⟨fits, (Option.some.inj finished).symm⟩
      · cases closing c rfl
        exact ⟨fits, (Option.some.inj finished).symm⟩
  | .more sequence others, fuel + 1, rest, result, closing, read => by
      rw [Branches.text, List.append_assoc, List.cons_append] at read
      rcases Option.bind_eq_some_iff.mp read with ⟨parts, sequenced, continued⟩
      rcases sequence.read_eq_some (by simp) sequenced with ⟨fits, rfl⟩
      rcases Option.bind_eq_some_iff.mp continued with ⟨remaining, branched, finished⟩
      rcases others.read_eq_some closing branched with ⟨others_fit, rfl⟩
      exact ⟨⟨fits, others_fit⟩, (Option.some.inj finished).symm⟩

/-- What is read of a sequence is its expressions. -/
theorem Sequence.read_eq_some : ∀ (sequence : Sequence) {fuel : Nat} {rest : List Char}
    {result : List Regex × List Char}, (∀ c ∈ rest.head?, c = '|' ∨ c = ')') →
    Regex.readSequence fuel (sequence.text ++ rest) = some result →
    sequence.Fits ∧ result = (sequence.expressions, rest)
  | _, 0, _, _, _, read => by cases read
  | .nil, fuel + 1, rest, result, closing, read => by
      rw [Sequence.text, List.nil_append] at read
      rcases rest with _ | ⟨c, rest⟩
      · exact ⟨trivial, (Option.some.inj read).symm⟩
      · rcases closing c rfl with rfl | rfl <;>
          exact ⟨trivial, (Option.some.inj read).symm⟩
  | .cons atom quantifier others, fuel + 1, rest, result, closing, read => by
      rw [Sequence.text, List.cons_append, List.append_assoc, List.append_assoc,
        readSequence_cons atom.head_ne.1 atom.head_ne.2 atom.isQuantifier_head] at read
      rcases Option.bind_eq_some_iff.mp read with ⟨first, atomic, quantified⟩
      rcases atom.read_eq_some atomic with ⟨fits, rfl⟩
      rcases Option.bind_eq_some_iff.mp quantified with ⟨part, repeated, continued⟩
      rcases quantify_eq_some (others.calm_text (calm_of_closing closing)) repeated with
        ⟨counts_fit, rfl⟩
      rcases Option.bind_eq_some_iff.mp continued with ⟨parts, sequenced, finished⟩
      rcases others.read_eq_some closing sequenced with ⟨others_fit, rfl⟩
      exact ⟨⟨fits, counts_fit, others_fit⟩, (Option.some.inj finished).symm⟩

/-- What is read of an atom is its expression. -/
theorem Atom.read_eq_some : ∀ (atom : Atom) {fuel : Nat} {rest : List Char}
    {result : Regex × List Char}, Regex.readAtom fuel atom.head (atom.tail ++ rest) = some result →
    atom.Fits ∧ result = (atom.expression, rest)
  | _, 0, _, _, read => by cases read
  | .anchor finish, fuel + 1, rest, result, read => by
      cases finish <;> exact ⟨trivial, (Option.some.inj read).symm⟩
  | .literal c plain, fuel + 1, rest, result, read => by
      rw [Atom.head, Atom.tail, List.nil_append, readAtom_of_plain plain] at read
      exact ⟨trivial, (Option.some.inj read).symm⟩
  | .escaped c special, fuel + 1, rest, result, read => by
      rw [Atom.head, Atom.tail, List.singleton_append, Regex.readAtom,
        readEscape_of_escapable special] at read
      exact ⟨trivial, (Option.some.inj read).symm⟩
  | .any, fuel + 1, rest, result, read => ⟨trivial, (Option.some.inj read).symm⟩
  | .shorthand kind negated, fuel + 1, rest, result, read => by
      cases kind <;> cases negated <;> exact ⟨trivial, (Option.some.inj read).symm⟩
  | .control control, fuel + 1, rest, result, read => by
      cases control <;> exact ⟨trivial, (Option.some.inj read).symm⟩
  | .bracket negated first others, fuel + 1, rest, result, read => by
      rw [Atom.head, Atom.tail, List.append_assoc, List.append_assoc, Regex.readAtom,
        List.singleton_append, readBracket_text] at read
      exact ⟨trivial, (Option.some.inj read).symm⟩
  | .group captures body, fuel + 1, rest, result, read => by
      have calm : Calm (body.text ++ ')' :: rest) := body.calm_text (Calm.cons rfl rest)
      rw [Atom.head, Atom.tail, List.append_assoc, List.append_assoc, List.singleton_append,
        readAtom_group calm] at read
      rcases fuel with _ | fuel
      · cases read
      · rcases Option.bind_eq_some_iff.mp read with ⟨branches, branched, finished⟩
        rcases body.read_eq_some (by simp) branched with ⟨fits, rfl⟩
        exact ⟨fits, (Option.some.inj finished).symm⟩

end

/-- A text that is read as a regular expression is read as that of its tree. -/
theorem Branches.eq_of_compile? {branches : Branches} {expression : Regex}
    (compiled : Regex.compile? branches.text = some expression) :
    branches.Fits ∧ expression = .ofBranches branches.expressions := by
  have read := (Option.filter_eq_some_iff.mp compiled).1
  simp only [Regex.read?] at read
  split at read
  · rename_i found branched
    rw [← List.append_nil branches.text] at branched
    rcases branches.read_eq_some (by simp) branched with ⟨fits, same⟩
    cases same
    split at read
    · exact ⟨fits, (Option.some.inj read).symm⟩
    · cases read
  · cases read

end ApiStub.Notation
