import ApiStub.Proofs.PatternNumbers
import ApiStub.Proofs.PatternTexts

/-!
# The counts of repetitions

The counts of a pattern that is read are in order, but for one way to write them. An open
repetition such as `x{7,}` goes on for `openSlack` times more than its count, and the sum is kept in
32 bits. A count close to the greatest one makes the sum start again from zero, so the repetition
has no number of times and drawing from it has no result.

What a reader takes is told by where it stands: every rest it leaves is a suffix of the source, so
a count that it read has its place in the source.
-/

namespace ApiStub.Pattern

/-- The count stands in the source as that of an open repetition: no number of 32 bits follows its
comma. -/
def OpenCount (source : List Char) (count : Nat) : Prop :=
  ∃ before digits more after,
    source = before ++ '{' :: (digits ++ ',' :: (more ++ '}' :: after)) ∧
    digits ≠ [] ∧ (∀ c ∈ digits, c.isDigit) ∧ Text.decimal digits = count ∧
    (∀ c ∈ more, c.isDigit) ∧ (more = [] ∨ 2 ^ 32 ≤ Text.decimal more)

/-- The counts of a repetition have 32 bits and are in order; or they were written as one open
count, and what it goes on to does not fit 32 bits. -/
def Counted (source : List Char) (least greatest : Nat) : Prop :=
  least ≤ greatest ∧ greatest < 2 ^ 32 ∨
    OpenCount source least ∧ least + openSlack = greatest + 2 ^ 32

/-- What reading leaves at the root of a pattern. -/
def Formed (source : List Char) : Pattern → Prop
  | oneOf set => ∀ range ∈ set.ranges, range.least ≤ range.greatest
  | choice branches => branches ≠ []
  | repeated _ least greatest => Counted source least greatest
  | _ => True

variable {source input rest : List Char} {count least greatest : Nat}

/-! ## Counts -/

theorem suffix_readCount (input : List Char) : (readCount input).2 <:+ input :=
  List.dropWhile_suffix _

/-- What a count is read from begins with digits, which end where it goes on. -/
theorem eq_of_readCount {value : Option Nat} (read : readCount input = (value, rest)) :
    ∃ digits, input = digits ++ rest ∧ (∀ c ∈ digits, c.isDigit) ∧
      value = if digits.isEmpty || 2 ^ 32 ≤ Text.decimal digits then none
        else some (Text.decimal digits) := by
  simp only [readCount, Prod.mk.injEq] at read
  rcases read with ⟨rfl, rfl⟩
  refine ⟨input.takeWhile Char.isDigit, List.takeWhile_append_dropWhile.symm, ?_, rfl⟩
  exact fun c mem => List.mem_takeWhile_imp mem

theorem eq_of_readCount_some (read : readCount input = (some count, rest)) :
    ∃ digits, input = digits ++ rest ∧ (∀ c ∈ digits, c.isDigit) ∧ digits ≠ [] ∧
      Text.decimal digits = count ∧ count < 2 ^ 32 := by
  rcases eq_of_readCount read with ⟨digits, same, areDigits, value⟩
  split at value
  · cases value
  · rename_i fits
    rw [Bool.or_eq_true, not_or, List.isEmpty_iff, decide_eq_true_iff, Nat.not_le] at fits
    cases value
    exact ⟨digits, same, areDigits, fits.1, rfl, fits.2⟩

theorem eq_of_readCount_none (read : readCount input = (none, rest)) :
    ∃ digits, input = digits ++ rest ∧ (∀ c ∈ digits, c.isDigit) ∧
      (digits = [] ∨ 2 ^ 32 ≤ Text.decimal digits) := by
  rcases eq_of_readCount read with ⟨digits, same, areDigits, value⟩
  split at value
  · rename_i unfit
    rw [Bool.or_eq_true, List.isEmpty_iff, decide_eq_true_iff] at unfit
    exact ⟨digits, same, areDigits, unfit⟩
  · cases value

/-- An open count goes on to a greater one, unless the sum is cut to 32 bits. -/
theorem counted_of_open (written : OpenCount source least) (fits : least < 2 ^ 32) :
    Counted source least ((least + openSlack) % 2 ^ 32) := by
  rcases Nat.lt_or_ge (least + openSlack) (2 ^ 32) with within | beyond
  · rw [Nat.mod_eq_of_lt within]
    exact .inl ⟨Nat.le_add_right _ _, within⟩
  · right
    refine ⟨written, ?_⟩
    rw [openSlack] at beyond ⊢
    omega

theorem counted_of_readBounds (here : '{' :: input <:+ source)
    (read : readBounds input = some ((least, greatest), rest)) :
    Counted source least greatest ∧ rest <:+ source := by
  unfold readBounds at read
  split at read
  · rename_i count after first
    cases read
    rcases eq_of_readCount_some first with ⟨digits, rfl, _, _, _, fits⟩
    refine ⟨.inl ⟨Nat.le_refl _, fits⟩, List.IsSuffix.trans ?_ here⟩
    exact (List.suffix_cons '}' _).trans
      ((List.suffix_append digits _).trans (List.suffix_cons '{' _))
  · rename_i count after first
    rcases eq_of_readCount_some first with ⟨digits, rfl, areDigits, nonempty, value, fits⟩
    have after_suffix : after <:+ source :=
      (List.suffix_cons ',' _).trans
        ((List.suffix_append digits _).trans ((List.suffix_cons '{' _).trans here))
    have second_suffix := (suffix_readCount after).trans after_suffix
    split at read
    · rename_i second
      split at read
      · rename_i ordered
        cases read
        rw [second] at second_suffix
        rcases eq_of_readCount_some second with ⟨_, _, _, _, _, fits⟩
        exact ⟨.inl ⟨ordered, fits⟩, (List.suffix_cons _ _).trans second_suffix⟩
      · cases read
    · rename_i second
      cases read
      rw [second] at second_suffix
      rcases eq_of_readCount_none second with ⟨more, rfl, moreDigits, unfit⟩
      rcases here with ⟨before, rfl⟩
      have written : OpenCount (before ++ '{' :: (digits ++ ',' :: (more ++ '}' :: rest))) least :=
        ⟨before, digits, more, rest, rfl, nonempty, areDigits, value, moreDigits, unfit⟩
      exact ⟨counted_of_open written fits, (List.suffix_cons _ _).trans second_suffix⟩
    · cases read
  · cases read

theorem counted_of_readQuantifier (here : input <:+ source)
    (read : readQuantifier input = some ((least, greatest), rest)) :
    Counted source least greatest ∧ rest <:+ source := by
  unfold readQuantifier at read
  split at read
  · cases read
    exact ⟨.inl (by decide), (List.suffix_cons _ _).trans here⟩
  · cases read
    exact ⟨.inl (by decide), (List.suffix_cons _ _).trans here⟩
  · cases read
    exact ⟨.inl (by decide), (List.suffix_cons _ _).trans here⟩
  · exact counted_of_readBounds here read
  · cases read

theorem suffix_skipGreed (input : List Char) : skipGreed input <:+ input := by
  unfold skipGreed
  split
  · exact List.suffix_cons _ _
  · exact List.suffix_cons _ _
  · exact List.suffix_refl _

theorem formed_quantify {atom : Pattern} (formed : atom.Every (Formed source))
    (here : input <:+ source) :
    (quantify atom input).1.Every (Formed source) ∧ (quantify atom input).2 <:+ source := by
  unfold quantify
  split
  · rename_i least greatest rest read
    rcases counted_of_readQuantifier here read with ⟨counted, there⟩
    exact ⟨every_repeated_iff.mpr ⟨counted, formed⟩, (suffix_skipGreed rest).trans there⟩
  · exact ⟨formed, here⟩

/-! ## Sets -/

theorem ordered_of_readRange {first : Char} {range : CharRange}
    (read : readRange first input = some (range, rest)) :
    range.least ≤ range.greatest ∧ rest <:+ input := by
  unfold readRange at read
  split at read
  · cases read
    exact ⟨Char.le_refl _, List.suffix_refl _⟩
  · split at read
    · cases read
    · rename_i ordered
      cases read
      exact ⟨Char.not_lt.mp ordered, List.suffix_append ['-', '\\', _] _⟩
  · cases read
  · split at read
    · cases read
    · rename_i ordered
      cases read
      exact ⟨Char.not_lt.mp ordered, List.suffix_append ['-', _] _⟩
  · cases read
    exact ⟨Char.le_refl _, List.suffix_refl _⟩

theorem ordered_of_classEscape? {c : Char} {ranges : List CharRange}
    (names : classEscape? c = some ranges) : ∀ range ∈ ranges, range.least ≤ range.greatest := by
  unfold classEscape? at names
  split at names
  · cases names
    decide
  · cases names
    decide
  · cases names
    decide
  · cases names

/-- A range and the members after it, when these are read in order. -/
theorem ordered_of_range_then {fuel : Nat} {first : Char} {ranges : List CharRange}
    (others : ∀ {input rest ranges}, readMembers fuel false input = some (ranges, rest) →
      (∀ range ∈ ranges, range.least ≤ range.greatest) ∧ rest <:+ input)
    (read : (do
      let (range, rest) ← readRange first input
      let (more, rest) ← readMembers fuel false rest
      some (range :: more, rest)) = some (ranges, rest)) :
    (∀ range ∈ ranges, range.least ≤ range.greatest) ∧ rest <:+ input := by
  rcases Option.bind_eq_some_iff.mp read with ⟨⟨range, between⟩, readRange, readMore⟩
  rcases Option.bind_eq_some_iff.mp readMore with ⟨⟨more, after⟩, readOthers, same⟩
  cases same
  rcases ordered_of_readRange readRange with ⟨one, here⟩
  rcases others readOthers with ⟨ordered, there⟩
  exact ⟨List.forall_mem_cons.mpr ⟨one, ordered⟩, there.trans here⟩

theorem ordered_of_readMembers {fuel : Nat} {first : Bool} {ranges : List CharRange}
    (read : readMembers fuel first input = some (ranges, rest)) :
    (∀ range ∈ ranges, range.least ≤ range.greatest) ∧ rest <:+ input := by
  induction fuel generalizing first input rest ranges with
  | zero => cases read
  | succ fuel ih =>
      unfold readMembers at read
      split at read
      · cases read
      · rename_i c input
        have skipped := List.suffix_append ['\\', c] input
        split at read
        · rename_i named names
          rcases Option.bind_eq_some_iff.mp read with ⟨⟨others, after⟩, readOthers, same⟩
          cases same
          rcases ih readOthers with ⟨ordered, there⟩
          refine ⟨?_, there.trans skipped⟩
          exact List.forall_mem_append.mpr ⟨ordered_of_classEscape? names, ordered⟩
        · rcases ordered_of_range_then ih read with ⟨ordered, there⟩
          exact ⟨ordered, there.trans skipped⟩
      · cases read
      · split at read
        · cases read
          exact ⟨by simp, List.suffix_cons _ _⟩
        · rcases ordered_of_range_then ih read with ⟨ordered, there⟩
          exact ⟨ordered, there.trans (List.suffix_cons _ _)⟩

theorem every_formed_oneOf {set : CharSet}
    (ordered : ∀ range ∈ set.ranges, range.least ≤ range.greatest) :
    (oneOf set).Every (Formed source) :=
  every_of_leaf ordered fun _ below => by cases below; rfl

theorem every_formed_literal (c : Char) : (literal c).Every (Formed source) :=
  every_of_leaf trivial fun _ below => by cases below; rfl

theorem every_formed_empty : empty.Every (Formed source) :=
  every_of_leaf trivial fun _ below => by cases below; rfl

theorem formed_of_readClass {pattern : Pattern} (read : readClass input = some (pattern, rest)) :
    pattern.Every (Formed source) ∧ rest <:+ input := by
  unfold readClass at read
  rcases Option.map_eq_some_iff.mp read with ⟨⟨ranges, after⟩, readMembers, same⟩
  cases same
  rcases ordered_of_readMembers readMembers with ⟨ordered, there⟩
  refine ⟨every_formed_oneOf ordered, there.trans ?_⟩
  split
  · exact List.suffix_cons _ _
  · exact List.suffix_refl _

theorem formed_of_escape? {c : Char} {pattern : Pattern} (names : escape? c = some pattern) :
    pattern.Every (Formed source) := by
  unfold escape? at names
  split at names
  iterate 6
    · cases names
      exact every_formed_oneOf (by decide)
  iterate 3
    · cases names
      exact every_formed_literal _
  · split at names
    · cases names
      exact every_formed_empty
    · split at names
      · cases names
      · cases names
        exact every_formed_literal _

/-! ## Patterns -/

/-- What is read in so many steps, of a source that goes on with the input. -/
structure ReadsFormed (source : List Char) (fuel : Nat) : Prop where
  branches : ∀ {input rest branches}, input <:+ source →
    readBranches fuel input = some (branches, rest) →
    branches ≠ [] ∧ (∀ branch ∈ branches, ∀ piece ∈ branch, piece.Every (Formed source)) ∧
      rest <:+ source
  sequence : ∀ {input rest pieces}, input <:+ source →
    readSequence fuel input = some (pieces, rest) →
    (∀ piece ∈ pieces, piece.Every (Formed source)) ∧ rest <:+ source
  atom : ∀ {c input rest atom}, input <:+ source → readAtom fuel c input = some (atom, rest) →
    atom.Every (Formed source) ∧ rest <:+ source
  group : ∀ {input rest group}, input <:+ source → readGroup fuel input = some (group, rest) →
    group.Every (Formed source) ∧ rest <:+ source

namespace ReadsFormed

variable {fuel : Nat}

theorem readBranches_succ (reads : ReadsFormed source fuel) {branches : List (List Pattern)}
    (here : input <:+ source) (read : readBranches (fuel + 1) input = some (branches, rest)) :
    branches ≠ [] ∧ (∀ branch ∈ branches, ∀ piece ∈ branch, piece.Every (Formed source)) ∧
      rest <:+ source := by
  unfold readBranches at read
  rcases Option.bind_eq_some_iff.mp read with ⟨⟨branch, after⟩, readOne, readMore⟩
  rcases reads.sequence here readOne with ⟨formed, there⟩
  dsimp only at readMore
  split at readMore
  · rename_i barred
    rcases Option.bind_eq_some_iff.mp readMore with ⟨⟨others, last⟩, readOthers, same⟩
    cases same
    rcases reads.branches ((List.suffix_cons _ _).trans there) readOthers with ⟨_, each, beyond⟩
    exact ⟨List.cons_ne_nil _ _, List.forall_mem_cons.mpr ⟨formed, each⟩, beyond⟩
  · cases readMore
    exact ⟨List.cons_ne_nil _ _, List.forall_mem_singleton.mpr formed, there⟩

theorem readSequence_succ (reads : ReadsFormed source fuel) {pieces : List Pattern}
    (here : input <:+ source) (read : readSequence (fuel + 1) input = some (pieces, rest)) :
    (∀ piece ∈ pieces, piece.Every (Formed source)) ∧ rest <:+ source := by
  unfold readSequence at read
  split at read
  iterate 3
    · cases read
      exact ⟨by simp, here⟩
  · rcases Option.bind_eq_some_iff.mp read with ⟨⟨atom, after⟩, readAtom, readMore⟩
    rcases Option.bind_eq_some_iff.mp readMore with ⟨⟨others, last⟩, readOthers, same⟩
    cases same
    rcases reads.atom ((List.suffix_cons _ _).trans here) readAtom with ⟨formed, there⟩
    rcases formed_quantify formed there with ⟨quantified, between⟩
    rcases reads.sequence between readOthers with ⟨each, beyond⟩
    exact ⟨List.forall_mem_cons.mpr ⟨quantified, each⟩, beyond⟩

theorem readAtom_succ (reads : ReadsFormed source fuel) {c : Char} {atom : Pattern}
    (here : input <:+ source) (read : readAtom (fuel + 1) c input = some (atom, rest)) :
    atom.Every (Formed source) ∧ rest <:+ source := by
  unfold readAtom at read
  split at read
  · cases read
    exact ⟨every_formed_empty, here⟩
  · cases read
    exact ⟨every_formed_empty, here⟩
  · split at read
    · exact reads.group ((List.suffix_append ['?', ':'] _).trans here) read
    · cases read
    · exact reads.group here read
  · rcases formed_of_readClass read with ⟨formed, there⟩
    exact ⟨formed, there.trans here⟩
  · cases read
    exact ⟨every_formed_oneOf (by decide), here⟩
  · split at read
    · cases read
    · rcases Option.map_eq_some_iff.mp read with ⟨named, names, same⟩
      cases same
      exact ⟨formed_of_escape? names, (List.suffix_cons _ _).trans here⟩
  · split at read
    · cases read
    · cases read
      exact ⟨every_formed_literal c, here⟩

theorem readGroup_succ (reads : ReadsFormed source fuel) {group : Pattern}
    (here : input <:+ source) (read : readGroup (fuel + 1) input = some (group, rest)) :
    group.Every (Formed source) ∧ rest <:+ source := by
  unfold readGroup at read
  rcases Option.bind_eq_some_iff.mp read with ⟨⟨branches, after⟩, readBranches, closed⟩
  rcases reads.branches here readBranches with ⟨nonempty, each, there⟩
  dsimp only at closed
  split at closed
  · cases closed
    exact ⟨every_choice_iff.mpr ⟨nonempty, each⟩, (List.suffix_cons _ _).trans there⟩
  · cases closed

end ReadsFormed

theorem readsFormed (source : List Char) (fuel : Nat) : ReadsFormed source fuel := by
  induction fuel with
  | zero => constructor <;> nofun
  | succ fuel reads =>
      exact ⟨reads.readBranches_succ, reads.readSequence_succ, reads.readAtom_succ,
        reads.readGroup_succ⟩

theorem formed_of_read? {pattern : Pattern} (read : read? source = some pattern) :
    pattern.Every (Formed source) := by
  unfold read? at read
  split at read
  · rename_i branches readBranches
    cases read
    rcases (readsFormed source _).branches (List.suffix_refl _) readBranches with
      ⟨nonempty, each, _⟩
    exact every_choice_iff.mpr ⟨nonempty, each⟩
  · cases read

/-! ## What is drawn -/

theorem width_le (range : CharRange) : range.width ≤ 0x110000 := by
  have valid : range.greatest.toNat.isValidChar := range.greatest.valid
  rw [Nat.isValidChar] at valid
  rw [CharRange.width]
  omega

/-- It takes thousands of ranges to fill a count of 32 bits. -/
theorem widths_lt {ranges : List CharRange} (few : ranges.length < 3856) :
    (ranges.map CharRange.width).sum < 2 ^ 32 := by
  have each : ∀ width ∈ ranges.map CharRange.width, width ≤ 0x110000 := by
    intro width mem
    rcases List.mem_map.mp mem with ⟨range, _, rfl⟩
    exact width_le range
  have total := List.sum_le_card_nsmul _ _ each
  rw [List.length_map, smul_eq_mul] at total
  omega

/-- Of a pattern that is read, every choice has a branch and every repetition has its counts in
order, unless an open count came too close to `2 ^ 32`. As long as none did, drawing never asks for
a number from an empty range. -/
theorem counts_of_read {pattern : Pattern} (read : read? source = some pattern) :
    (∀ body least greatest, pattern.Part (.repeated body least greatest) →
      least ≤ greatest ∧ greatest < 2 ^ 32 ∨
        OpenCount source least ∧ least + openSlack = greatest + 2 ^ 32) ∧
    (∀ branches, pattern.Part (.choice branches) → branches ≠ []) ∧
    (∀ set, pattern.Part (.oneOf set) → set.ranges.length < 3856 →
      (set.ranges.map CharRange.width).sum < 2 ^ 32) ∧
    ((∀ body least greatest, pattern.Part (.repeated body least greatest) → least ≤ greatest) →
      ∀ (σ : Type) [WordSource σ] (words : σ) (done : List Char),
        ((pattern.emit done).result? words).isSome) := by
  have formed := formed_of_read? read
  refine ⟨fun _ _ _ below => formed _ below, fun _ below => formed _ below,
    fun _ _ few => widths_lt few, ?_⟩
  intro ordered σ _ words done
  apply Draw.Answerable.isSome_result?
  apply answerable_emit
  intro part below
  cases part with
  | repeated body least greatest => exact ordered body least greatest below
  | choice branches => exact formed _ below
  | empty | literal | oneOf => trivial

/-! ## What is refused -/

section Refusal

variable {σ : Type} [WordSource σ]

/-- A repetition without a number of times is refused. -/
theorem refuses_emit_repeated {body : Pattern} (crossed : greatest < least) (done : List Char) :
    (emit (.repeated body least greatest) done :
      Draw (Watched σ) (Option (List Char))).Refuses := by
  rw [emit]
  refine (Draw.refuses_natBetween .bits32 crossed).bind fun count => ?_
  exact careful_iterate (careful_emit body nofun) count done

/-- A choice without an alternative is refused when its one piece is. -/
theorem refuses_emit_sole {piece : Pattern} {done : List Char}
    (refuses : (piece.emit done : Draw (Watched σ) (Option (List Char))).Refuses) :
    (emit (.choice [[piece]]) done : Draw (Watched σ) (Option (List Char))).Refuses := by
  rw [emit]
  refine .bind_of_yields (Draw.yields_below .bits64 Nat.one_pos) fun index index_lt => ?_
  rw [Nat.lt_one_iff.mp index_lt, emitBranch, emitAll]
  refine refuses.bind fun drawn => ?_
  cases drawn with
  | none => exact Draw.careful_pure none
  | some done => exact careful_emitAll [] nofun done

end Refusal

/-- An anchor that is repeated, openly from a count on. -/
def openAnchor (least : Notation.Numeral) : Notation.Branches :=
  .last (.cons (.anchor false) (some ⟨.atLeast least, false⟩) .nil)

theorem read?_openAnchor (least : Notation.Numeral) (fits : least.value < 2 ^ 32) :
    read? (openAnchor least).text =
      some (.choice [[.repeated .empty least.value ((least.value + openSlack) % 2 ^ 32)]]) := by
  apply Notation.Branches.read?_text
  refine ⟨trivial, ?_, trivial⟩
  rintro _ ⟨⟩
  exact fits

/-- The greatest count that can be open. -/
theorem counts_of_read_openAnchor :
    read? "^{4294967291,}".toList = some (.choice [[.repeated .empty 4294967291 4294967295]]) ∧
      ∀ words : ScriptedWords,
        ((emit (.choice [[.repeated .empty 4294967291 4294967295]]) []).result? words).isSome := by
  let least : Notation.Numeral := ⟨"4294967291".toList, by decide, List.all_eq_true.mp (by decide)⟩
  have value : least.value = 4294967291 := by decide
  have text : (openAnchor least).text = "^{4294967291,}".toList := by decide
  have read := read?_openAnchor least (by omega)
  rw [text, value] at read
  refine ⟨read, fun words => (counts_of_read read).2.2.2 ?_ ScriptedWords words []⟩
  intro body least greatest below
  rcases below with _ | _ | ⟨branch_mem, piece_mem, below⟩
  rw [List.mem_singleton] at branch_mem
  subst branch_mem
  rw [List.mem_singleton] at piece_mem
  subst piece_mem
  cases below with
  | whole => decide
  | body below => cases below

/-- The greatest count of all is followed by `3`. -/
theorem read?_greatestCount :
    read? "^{4294967295,}".toList = some (.choice [[.repeated .empty 4294967295 3]]) := by
  let least : Notation.Numeral := ⟨"4294967295".toList, by decide, List.all_eq_true.mp (by decide)⟩
  have value : least.value = 4294967295 := by decide
  have text : (openAnchor least).text = "^{4294967295,}".toList := by decide
  have read := read?_openAnchor least (by omega)
  rwa [text, value] at read

theorem refuses_emit_greatestCount {σ : Type} [WordSource σ] (done : List Char) :
    (emit (.choice [[.repeated .empty 4294967295 3]]) done :
      Draw (Watched σ) (Option (List Char))).Refuses :=
  refuses_emit_sole (refuses_emit_repeated (by decide) done)

/-- The expression compiles and the pattern is read, but the greatest count of all is followed by
`3`: there is no text, whatever the source. -/
theorem no_result_of_openAnchor :
    (Regex.compile? "^{4294967295,}".toList).isSome ∧
    read? "^{4294967295,}".toList = some (.choice [[.repeated .empty 4294967295 3]]) ∧
      ∀ words : ScriptedWords,
        (emit (.choice [[.repeated .empty 4294967295 3]]) []).result? words = none :=
  ⟨by decide +kernel, read?_greatestCount, (refuses_emit_greatestCount []).result?_eq_none⟩

end ApiStub.Pattern
