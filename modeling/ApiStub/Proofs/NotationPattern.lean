import ApiStub.Proofs.NotationExpression

/-!
# The pattern of a notation

The text of a tree is read as the pattern of the tree. This reader knows no refusal of a text that
is well formed, as long as its numbers have 32 bits; what has to be seen is that its fuel is enough.
-/

namespace ApiStub.Notation

open Pattern (CharRange CharSet)

/-! ## Quantifiers -/

/-- A number of 32 bits is read as a count. -/
theorem Numeral.readCount_eq {numeral : Numeral} (fits : numeral.value < 2 ^ 32) {c : Char}
    (stop : c.isDigit = false) (rest : List Char) :
    Pattern.readCount (numeral.digits ++ c :: rest) = (some numeral.value, c :: rest) := by
  have small : decide (2 ^ 32 ≤ Text.decimal numeral.digits) = false :=
    decide_eq_false (Nat.not_le.mpr fits)
  have written : numeral.digits.isEmpty = false :=
    List.isEmpty_eq_false_iff.mpr numeral.nonempty
  simp only [Pattern.readCount, numeral.takeWhile_digits stop, numeral.dropWhile_digits stop, small,
    written, Bool.or_self, Bool.false_eq_true, if_false]
  rfl

theorem Counts.readQuantifier_text {counts : Counts} (fits : counts.Fits) (rest : List Char) :
    Pattern.readQuantifier (counts.text ++ rest) = some (counts.bounds, rest) := by
  cases counts with
  | star => rfl
  | plus => rfl
  | optional => rfl
  | exactly count =>
      have counted := Numeral.readCount_eq (c := '}') fits rfl rest
      rw [Counts.text, List.cons_append, List.append_assoc]
      simp only [Pattern.readQuantifier, Pattern.readBounds, List.singleton_append, counted]
      rfl
  | atLeast least =>
      have counted := Numeral.readCount_eq (c := ',') fits rfl ('}' :: rest)
      rw [Counts.text, List.cons_append, List.append_assoc]
      simp only [Pattern.readQuantifier, Pattern.readBounds, List.cons_append, List.nil_append,
        counted]
      rfl
  | between least greatest ordered =>
      have counted := Numeral.readCount_eq (c := ',') fits.1 rfl
        (greatest.digits ++ '}' :: rest)
      have upper := Numeral.readCount_eq (c := '}') fits.2 rfl rest
      rw [Counts.text, List.cons_append, List.append_assoc, List.cons_append, List.append_assoc]
      simp only [Pattern.readQuantifier, Pattern.readBounds, List.singleton_append, counted, upper,
        ordered, if_true]
      rfl

theorem readQuantifier_of_calm {rest : List Char} (calm : Calm rest) :
    Pattern.readQuantifier rest = none := by
  rcases rest with _ | ⟨c, rest⟩
  · rfl
  · have quiet := calm c rfl
    simp only [Regex.isQuantifier] at quiet
    rw [Pattern.readQuantifier]
    all_goals
      intros
      simp_all

theorem skipGreed_of_calm {rest : List Char} (calm : Calm rest) :
    Pattern.skipGreed rest = rest := by
  rcases rest with _ | ⟨c, rest⟩
  · rfl
  · have quiet := calm c rfl
    simp only [Regex.isQuantifier] at quiet
    rw [Pattern.skipGreed]
    all_goals
      intros
      simp_all

/-- An atom takes its quantifier, and nothing after it. -/
theorem quantify_text {quantifier : Option Quantifier} (fits : ∀ q ∈ quantifier, q.counts.Fits)
    (atom : Pattern) {rest : List Char} (calm : Calm rest) :
    Pattern.quantify atom (markText quantifier ++ rest) =
      (repeatedPattern quantifier atom, rest) := by
  rcases quantifier with _ | ⟨counts, lazily⟩
  · rw [show markText none = [] from rfl, List.nil_append, Pattern.quantify,
      readQuantifier_of_calm calm]
    rfl
  · simp only [markText, Option.map_some, Option.getD_some, Quantifier.text, List.append_assoc,
      Pattern.quantify]
    rw [Counts.readQuantifier_text (fits ⟨counts, lazily⟩ rfl)]
    have skipped : Pattern.skipGreed ((if lazily then ['?'] else []) ++ rest) = rest := by
      cases lazily with
      | true => rfl
      | false => exact skipGreed_of_calm calm
    simp only [skipped]
    rfl

/-! ## Classes -/

theorem readRange_of_next {least c : Char} (next : c ≠ '-') (rest : List Char) :
    Pattern.readRange least (c :: rest) = some (.single least, c :: rest) := by
  rw [Pattern.readRange]
  all_goals
    intros
    simp_all

/-- An item adds its ranges when the next character makes no range of it. -/
theorem readMembers_item {fuel : Nat} {first : Bool} (item : Item) {c : Char} (next : c ≠ '-')
    (rest : List Char) :
    Pattern.readMembers (fuel + 1) first (item.text ++ c :: rest) =
      (Pattern.readMembers fuel false (c :: rest)).map fun (ranges, rest) =>
        (item.ranges ++ ranges, rest) := by
  cases item with
  | single member plain =>
      simp only [classStructural, List.mem_cons, not_or] at plain
      rw [Item.text, List.singleton_append, Pattern.readMembers]
      · rcases following : Pattern.readMembers fuel false (c :: rest) with _ | ⟨ranges, others⟩ <;>
          simp [plain, readRange_of_next next, following, Item.ranges]
      all_goals
        intros
        simp_all
  | range least greatest least_plain greatest_plain ordered =>
      simp only [classStructural, List.mem_cons, not_or] at least_plain greatest_plain
      have range : Pattern.readRange least ('-' :: greatest :: c :: rest) =
          some (⟨least, greatest⟩, c :: rest) := by
        rw [Pattern.readRange]
        · simp [Char.not_lt.mpr ordered]
        all_goals
          intros
          simp_all
      rw [Item.text, List.cons_append, List.cons_append, List.singleton_append,
        Pattern.readMembers]
      · rcases following : Pattern.readMembers fuel false (c :: rest) with _ | ⟨ranges, others⟩ <;>
          simp [least_plain, range, following, Item.ranges]
      all_goals
        intros
        simp_all
  | shorthand kind =>
      cases kind <;>
        simp only [Item.text, Shorthand.letter, List.cons_append, List.nil_append,
          Pattern.readMembers, Pattern.classEscape?] <;>
        rcases Pattern.readMembers fuel false (c :: rest) with _ | ⟨ranges, others⟩ <;> rfl

theorem readMembers_items {fuel : Nat} (items : List Item) (rest : List Char)
    (enough : items.length < fuel) :
    Pattern.readMembers fuel false (items.flatMap Item.text ++ ']' :: rest) =
      some (rangesOf items, rest) := by
  induction items generalizing fuel with
  | nil =>
      rcases fuel with _ | fuel
      · cases enough
      · rfl
  | cons item items ih =>
      rcases fuel with _ | fuel
      · cases enough
      · rcases exists_itemsText_eq items rest with ⟨c, others, text_eq, next⟩
        rw [List.flatMap_cons, List.append_assoc, text_eq, readMembers_item item next,
          ← text_eq, ih (Nat.lt_of_succ_lt_succ enough)]
        rfl

theorem readClass_text (negated : Bool) (first : Item) (others : List Item)
    (rest : List Char) :
    Pattern.readClass ((if negated then ['^'] else []) ++
        ((first :: others).flatMap Item.text ++ ']' :: rest)) =
      some (.oneOf ⟨rangesOf (first :: others), negated⟩, rest) := by
  have enough := length_le_itemsText others
  rcases first.exists_text_eq with ⟨c, text, text_eq, plain⟩
  rcases exists_itemsText_eq others rest with ⟨next, following, following_eq, next_ne⟩
  have members : ∀ fuel, others.length < fuel → Pattern.readMembers (fuel + 1) true
      ((first :: others).flatMap Item.text ++ ']' :: rest) =
        some (rangesOf (first :: others), rest) := by
    intro fuel enough
    rw [List.flatMap_cons, List.append_assoc, following_eq, readMembers_item first next_ne,
      ← following_eq, readMembers_items others rest enough]
    rfl
  have long : others.length < ((first :: others).flatMap Item.text ++ ']' :: rest).length := by
    simp only [List.flatMap_cons, List.length_append, List.length_cons]
    omega
  cases negated with
  | true =>
      simp only [Pattern.readClass, if_true, List.singleton_append, members _ long]
      rfl
  | false =>
      simp only [List.mem_cons, not_or] at plain
      have unnegated : (first :: others).flatMap Item.text ++ ']' :: rest =
          c :: (text ++ (others.flatMap Item.text ++ ']' :: rest)) := by
        rw [List.flatMap_cons, text_eq, List.append_assoc]
        rfl
      simp only [Bool.false_eq_true, if_false, List.nil_append]
      rw [Pattern.readClass, members _ long]
      · rfl
      · intro others others_eq
        rw [unnegated] at others_eq
        exact plain.2.2.1 (List.cons.inj others_eq).1

/-! ## Trees -/

theorem readPatternAtom_of_plain {c : Char} (plain : c ∉ structural) (fuel : Nat)
    (rest : List Char) : Pattern.readAtom (fuel + 1) c rest = some (.literal c, rest) := by
  simp only [structural, List.mem_cons, not_or] at plain
  rw [Pattern.readAtom]
  · simp [plain]
  all_goals
    intros
    simp_all

theorem escape?_of_escapable {c : Char} (special : c ∈ escapable) :
    Pattern.escape? c = some (.literal c) := by
  simp only [escapable, structural, List.mem_append, List.mem_cons, List.not_mem_nil,
    or_false] at special
  rcases special with
    (rfl | rfl | rfl | rfl | rfl | rfl | rfl | rfl | rfl | rfl | rfl | rfl | rfl | rfl) |
      rfl | rfl | rfl | rfl <;> rfl

theorem readPatternSequence_cons {c : Char} (bar : c ≠ '|') (close : c ≠ ')') (fuel : Nat)
    (rest : List Char) :
    Pattern.readSequence (fuel + 1) (c :: rest) = (do
      let (atom, rest) ← Pattern.readAtom fuel c rest
      let (piece, rest) := Pattern.quantify atom rest
      let (pieces, rest) ← Pattern.readSequence fuel rest
      some (piece :: pieces, rest)) := by
  rw [Pattern.readSequence]
  all_goals
    intros
    simp_all

theorem readPatternAtom_group {fuel : Nat} {body : List Char} (calm : Calm body)
    (captures : Bool) :
    Pattern.readAtom (fuel + 1) '(' ((if captures then [] else ['?', ':']) ++ body) =
      Pattern.readGroup fuel body := by
  cases captures with
  | false => rfl
  | true =>
      rcases body with _ | ⟨c, body⟩
      · rfl
      · have quiet := calm c rfl
        have plain : c ≠ '?' := by
          rintro rfl
          cases quiet
        simp only [if_true, List.nil_append]
        rw [Pattern.readAtom]
        all_goals
          intros
          simp_all

mutual

/-- The text of some branches is read as their patterns. -/
theorem Branches.read_text : ∀ (branches : Branches) {fuel : Nat} {rest : List Char},
    branches.Fits → (∀ c ∈ rest.head?, c = ')') → 4 * branches.text.length + 2 ≤ fuel →
    Pattern.readBranches fuel (branches.text ++ rest) = some (branches.patterns, rest)
  | _, 0, _, _, _, enough => by omega
  | .last sequence, fuel + 1, rest, fits, closing, enough => by
      rw [Branches.text] at enough
      have sequenced := sequence.read_text fits (fun c c_mem => .inr (closing c c_mem))
        (Nat.le_of_succ_le_succ enough)
      rw [Branches.text, Pattern.readBranches, sequenced]
      rcases rest with _ | ⟨c, rest⟩
      · rfl
      · cases closing c rfl
        rfl
  | .more sequence others, fuel + 1, rest, fits, closing, enough => by
      rw [Branches.text, List.length_append, List.length_cons] at enough
      have sequenced : Pattern.readSequence fuel (sequence.text ++ '|' :: (others.text ++ rest)) =
          some (sequence.patterns, '|' :: (others.text ++ rest)) :=
        sequence.read_text fits.1 (by simp) (by omega)
      have branched : Pattern.readBranches fuel (others.text ++ rest) =
          some (others.patterns, rest) := others.read_text fits.2 closing (by omega)
      rw [Branches.text, List.append_assoc, List.cons_append, Pattern.readBranches, sequenced]
      simp only [Option.bind_eq_bind, Option.bind_some, branched]
      rfl

/-- The text of a sequence is read as its patterns. -/
theorem Sequence.read_text : ∀ (sequence : Sequence) {fuel : Nat} {rest : List Char},
    sequence.Fits → (∀ c ∈ rest.head?, c = '|' ∨ c = ')') → 4 * sequence.text.length + 1 ≤ fuel →
    Pattern.readSequence fuel (sequence.text ++ rest) = some (sequence.patterns, rest)
  | _, 0, _, _, _, enough => by omega
  | .nil, fuel + 1, rest, fits, closing, enough => by
      rw [Sequence.text, List.nil_append]
      rcases rest with _ | ⟨c, rest⟩
      · rfl
      · rcases closing c rfl with rfl | rfl <;> rfl
  | .cons atom quantifier others, fuel + 1, rest, fits, closing, enough => by
      rw [Sequence.text, List.length_cons, List.length_append, List.length_append] at enough
      have atomic : Pattern.readAtom fuel atom.head
          (atom.tail ++ (markText quantifier ++ (others.text ++ rest))) =
            some (atom.pattern, markText quantifier ++ (others.text ++ rest)) :=
        atom.read_text fits.1 (by omega)
      have quantified := quantify_text fits.2.1 atom.pattern
        (others.calm_text (calm_of_closing closing))
      have sequenced : Pattern.readSequence fuel (others.text ++ rest) =
          some (others.patterns, rest) := others.read_text fits.2.2 closing (by omega)
      rw [Sequence.text, List.cons_append, List.append_assoc, List.append_assoc,
        readPatternSequence_cons atom.head_ne.1 atom.head_ne.2, atomic]
      simp only [Option.bind_eq_bind, Option.bind_some, quantified, sequenced]
      rfl

/-- The text of an atom is read as its pattern. -/
theorem Atom.read_text : ∀ (atom : Atom) {fuel : Nat} {rest : List Char},
    atom.Fits → 4 * (atom.tail.length + 1) ≤ fuel + 3 →
    Pattern.readAtom fuel atom.head (atom.tail ++ rest) = some (atom.pattern, rest)
  | _, 0, _, _, enough => by omega
  | .anchor finish, fuel + 1, rest, fits, enough => by cases finish <;> rfl
  | .literal c plain, fuel + 1, rest, fits, enough => readPatternAtom_of_plain plain fuel rest
  | .escaped c special, fuel + 1, rest, fits, enough => by
      rw [Atom.head, Atom.tail, List.singleton_append, Pattern.readAtom,
        escape?_of_escapable special]
      rfl
  | .any, fuel + 1, rest, fits, enough => rfl
  | .shorthand kind negated, fuel + 1, rest, fits, enough => by
      cases kind <;> cases negated <;> rfl
  | .control control, fuel + 1, rest, fits, enough => by cases control <;> rfl
  | .bracket negated first others, fuel + 1, rest, fits, enough => by
      rw [Atom.head, Atom.tail, List.append_assoc, List.append_assoc, Pattern.readAtom,
        List.singleton_append, readClass_text]
      rfl
  | .group captures body, fuel + 1, rest, fits, enough => by
      have calm : Calm (body.text ++ ')' :: rest) := body.calm_text (Calm.cons rfl rest)
      rw [Atom.tail, List.length_append, List.length_append, List.length_singleton] at enough
      rw [Atom.head, Atom.tail, List.append_assoc, List.append_assoc, List.singleton_append,
        readPatternAtom_group calm]
      rcases fuel with _ | fuel
      · omega
      · have branched : Pattern.readBranches fuel (body.text ++ ')' :: rest) =
            some (body.patterns, ')' :: rest) :=
          body.read_text fits (by simp) (by omega)
        rw [Pattern.readGroup, branched]
        rfl

end

/-- The text of a tree has the pattern of the tree. -/
theorem Branches.read?_text {branches : Branches} (fits : branches.Fits) :
    Pattern.read? branches.text = some (.choice branches.patterns) := by
  have read : Pattern.readBranches (4 * (branches.text.length + 1)) (branches.text ++ []) =
      some (branches.patterns, []) := branches.read_text fits (by simp) (by omega)
  rw [List.append_nil] at read
  rw [Pattern.read?, read]

end ApiStub.Notation
