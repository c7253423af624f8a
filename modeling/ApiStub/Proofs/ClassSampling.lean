import ApiStub.Proofs.RepetitionCounts

/-!
# Characters drawn from classes

What is drawn from a class is one of its characters: a covered one, or for a negated class a
printable one that is not covered. A negated class gives nothing only when no printable character
is left.

A class that is not negated can give nothing as well. Its ranges are counted through by code points,
and those from `D800` to `DFFF` are no characters, so a range from below them to above them is
sometimes drawn from without a result. The same holds of a class whose count of 32 bits is back at
zero. Every number below the count is drawn by some source, so these are the only cases, and each of
them happens.
-/

namespace ApiStub

namespace Draw

/-- A word whose product with the count has the number as its high half and an accepted low one. -/
theorem exists_word_of_lt {count number : Nat} (inside : number < count) (fits : count < 2 ^ 32) :
    ∃ word < 2 ^ 32, word * count / 2 ^ 32 = number ∧ word * count % 2 ^ 32 < count := by
  have division := Nat.div_add_mod' (number * 2 ^ 32 + (count - 1)) count
  have remainder := Nat.mod_lt (number * 2 ^ 32 + (count - 1)) (Nat.zero_lt_of_lt inside)
  refine ⟨(number * 2 ^ 32 + (count - 1)) / count, ?_, ?_⟩
  · rw [Nat.div_lt_iff_lt_mul (Nat.zero_lt_of_lt inside)]
    omega
  · generalize (number * 2 ^ 32 + (count - 1)) / count * count = product at *
    omega

theorem le_acceptedUpTo {count : Nat} (positive : 0 < count) (fits : count < 2 ^ 32) :
    count ≤ acceptedUpTo .bits32 count + 1 := by
  have shift : 0 < Width.bits32.words / 2 ^ (count.log2 + 1) := by
    apply Nat.div_pos
    · exact Nat.pow_le_pow_right (by decide) ((Nat.log2_lt positive.ne').mpr fits)
    · exact Nat.two_pow_pos _
  have enough := Nat.le_mul_of_pos_right count shift
  rw [acceptedUpTo]
  omega

/-- Every number below a count is drawn by some source. -/
theorem exists_run_below {count number : Nat} (inside : number < count) (fits : count < 2 ^ 32) :
    ∃ words : ScriptedWords,
      ((below .bits32 count : Draw ScriptedWords Nat).run words).1 = number := by
  have positive := Nat.zero_lt_of_lt inside
  rcases exists_word_of_lt inside fits with ⟨word, word_lt, high, low⟩
  have accepted : word * count % Width.bits32.words ≤ acceptedUpTo .bits32 count := by
    have le := le_acceptedUpTo positive fits
    rw [Width.words]
    omega
  refine ⟨{ script := [UInt64.ofNat word] }, ?_⟩
  have next : ((Draw.word .bits32 : Draw ScriptedWords Nat).run
      { script := [UInt64.ofNat word] }) = (word, {}) := by
    have word_eq : (UInt64.ofNat word).toUInt32.toNat = word := by
      rw [UInt64.toNat_toUInt32, UInt64.toNat_ofNat']
      omega
    exact Prod.ext word_eq rfl
  have rounds : maxRounds = 2 ^ 40 - 1 + 1 := rfl
  rw [below, if_neg (by simpa using positive.ne'), if_neg (by simpa [Width.words] using fits.ne),
    rounds, belowWithin, StateT.run_bind, next]
  show ((if word * count % Width.bits32.words ≤ acceptedUpTo .bits32 count then
      pure (word * count / Width.bits32.words)
    else belowWithin .bits32 count (2 ^ 40 - 1) : Draw ScriptedWords Nat).run {}).1 = number
  rw [if_pos accepted]
  exact high

end Draw

namespace Pattern

namespace CharSet

/-! ## Code points -/

/-- The code points of the ranges, in the order in which they are counted through. -/
def codes (ranges : List CharRange) : List Nat :=
  ranges.flatMap fun range => List.range' range.least.toNat range.width

/-- The code point is that of no character. -/
def IsSurrogate (code : Nat) : Prop := 0xD800 ≤ code ∧ code ≤ 0xDFFF

/-- Drawing from the set can end without a character: no printable one is left, or the count is back
at zero, or a surrogate is counted. -/
def Gap (set : CharSet) : Prop :=
  if set.negated then set.outside = []
  else span set.ranges = 0 ∨ ∃ code ∈ (codes set.ranges).take (span set.ranges), IsSurrogate code

variable {ranges : List CharRange} {code index : Nat} {c : Char}

theorem length_codes (ranges : List CharRange) :
    (codes ranges).length = (ranges.map CharRange.width).sum := by
  simp [codes, List.length_flatMap]

theorem nth?_eq (ranges : List CharRange) (index : Nat) :
    nth? ranges index = (codes ranges)[index]?.bind charOf? := by
  induction ranges generalizing index with
  | nil => rfl
  | cons range rest ih =>
      have codes_eq : codes (range :: rest) =
          List.range' range.least.toNat range.width ++ codes rest := rfl
      rw [nth?, codes_eq]
      split
      · rename_i near
        rw [List.getElem?_append_left (by rwa [List.length_range']),
          List.getElem?_range' near]
        simp
      · rename_i far
        rw [List.getElem?_append_right (by rw [List.length_range']; omega), List.length_range', ih]

theorem span_le_length (ranges : List CharRange) : span ranges ≤ (codes ranges).length := by
  rw [length_codes]
  exact Nat.mod_le _ _

theorem mem_codes (ordered : ∀ range ∈ ranges, range.least ≤ range.greatest)
    (code_mem : code ∈ codes ranges) :
    ∃ range ∈ ranges, range.least.toNat ≤ code ∧ code ≤ range.greatest.toNat := by
  rcases List.mem_flatMap.mp code_mem with ⟨range, range_mem, counted⟩
  have order : range.least.toNat ≤ range.greatest.toNat := Char.le_def.mp (ordered range range_mem)
  rw [List.mem_range'_1, CharRange.width] at counted
  exact ⟨range, range_mem, counted.1, by omega⟩

theorem toNat_of_charOf? (found : charOf? code = some c) : c.toNat = code := by
  rw [charOf?] at found
  split at found
  · rename_i valid
    cases found
    rw [Char.ofNat, dif_pos valid]
    rfl
  · cases found

theorem covers_of_mem_codes {set : CharSet}
    (ordered : ∀ range ∈ set.ranges, range.least ≤ range.greatest)
    (code_mem : code ∈ codes set.ranges) (found : charOf? code = some c) : set.covers c := by
  rcases mem_codes ordered code_mem with ⟨range, range_mem, lower, upper⟩
  apply List.any_eq_true.mpr
  refine ⟨range, range_mem, CharRange.contains_iff.mpr ?_⟩
  rw [toNat_of_charOf? found]
  exact ⟨lower, upper⟩

/-- Of the code points counted, only the surrogates are no characters. -/
theorem charOf?_eq_none_iff (ordered : ∀ range ∈ ranges, range.least ≤ range.greatest)
    (code_mem : code ∈ codes ranges) : charOf? code = none ↔ IsSurrogate code := by
  rcases mem_codes ordered code_mem with ⟨range, range_mem, lower, upper⟩
  have greatest_valid : range.greatest.toNat.isValidChar := range.greatest.valid
  rw [Nat.isValidChar] at greatest_valid
  rw [charOf?, IsSurrogate, ite_eq_right_iff, Nat.isValidChar]
  constructor
  · intro invalid
    by_contra outside
    exact Option.some_ne_none _ (invalid (by omega))
  · intro surrogate valid
    omega

/-! ## What a set gives -/

theorem mem_printable_iff : c ∈ printable ↔ ' ' ≤ c ∧ c ≤ '~' := by
  constructor
  · intro c_mem
    rcases List.mem_map.mp c_mem with ⟨offset, offset_mem, rfl⟩
    rw [List.mem_range] at offset_mem
    have code : (Char.ofNat (32 + offset)).toNat = 32 + offset := by
      rw [Char.ofNat, dif_pos (.inl (by omega))]
      rfl
    exact ⟨Char.le_def.mpr (show 32 ≤ (Char.ofNat (32 + offset)).toNat by omega),
      Char.le_def.mpr (show (Char.ofNat (32 + offset)).toNat ≤ 126 by omega)⟩
  · rintro ⟨lower, upper⟩
    exact mem_printable (Char.le_def.mp lower) (Nat.lt_succ_of_le (Char.le_def.mp upper))

theorem mem_outside_iff {set : CharSet} :
    c ∈ set.outside ↔ (' ' ≤ c ∧ c ≤ '~') ∧ set.covers c = false := by
  rw [outside, List.mem_filter, mem_printable_iff, Bool.not_eq_true']

theorem gap_iff_of_negated {set : CharSet} (negated : set.negated = true) :
    set.Gap ↔ ∀ c, ' ' ≤ c → c ≤ '~' → set.covers c = true := by
  rw [Gap, if_pos negated, List.eq_nil_iff_forall_not_mem]
  simp only [mem_outside_iff, not_and, Bool.not_eq_false, and_imp]

section Drawing

variable {σ : Type} [WordSource σ] {set : CharSet}

theorem yields_sample_negated (negated : set.negated = true) :
    (set.sample : Draw σ (Option Char)).Yields fun drawn =>
      (∀ c ∈ drawn, c ∈ set.outside) ∧ (drawn = none ↔ set.outside = []) := by
  simp only [sample, negated, if_true]
  split
  · rename_i nothing
    exact Draw.yields_pure ⟨by simp, by simp [nothing]⟩
  · rename_i nonempty
    refine (Draw.yields_below .bits64 (List.length_pos_iff.mpr nonempty)).map
      fun index index_lt => ⟨fun c => List.mem_of_getElem?, ?_⟩
    rw [List.getElem?_eq_getElem index_lt]
    exact iff_of_false (Option.some_ne_none _) nonempty

theorem yields_sample_counted (counted : set.negated = false)
    (ordered : ∀ range ∈ set.ranges, range.least ≤ range.greatest) :
    (set.sample : Draw σ (Option Char)).Yields fun drawn =>
      (∀ c ∈ drawn, set.covers c) ∧ (¬set.Gap → drawn.isSome) := by
  simp only [sample, Gap, counted, Bool.false_eq_true, if_false]
  split
  · rename_i nothing
    exact Draw.yields_pure ⟨by simp, fun full => absurd (.inl (eq_of_beq nothing)) full⟩
  · rename_i nonempty
    refine (Draw.yields_below .bits32 (Nat.pos_of_ne_zero (by simpa using nonempty))).map
      fun index index_lt => ?_
    have inside := Nat.lt_of_lt_of_le index_lt (span_le_length set.ranges)
    have code_mem := List.getElem_mem inside
    rw [nth?_eq, List.getElem?_eq_getElem inside, Option.bind_some]
    refine ⟨fun c found => covers_of_mem_codes ordered code_mem found, fun full => ?_⟩
    rw [Option.isSome_iff_ne_none, Ne, charOf?_eq_none_iff ordered code_mem]
    exact fun surrogate =>
      full (.inr ⟨_, List.mem_take_iff_getElem.mpr ⟨index, by omega, rfl⟩, surrogate⟩)

/-- Some source draws nothing from a set with a gap. -/
theorem exists_run_sample_counted (counted : set.negated = false)
    (ordered : ∀ range ∈ set.ranges, range.least ≤ range.greatest) (gap : set.Gap) :
    ∃ words : ScriptedWords,
      ((set.sample : Draw ScriptedWords (Option Char)).run words).1 = none := by
  simp only [Gap, counted, Bool.false_eq_true, if_false] at gap
  simp only [sample, counted, Bool.false_eq_true, if_false]
  split
  · exact ⟨{}, rfl⟩
  · rename_i nonempty
    have positive : span set.ranges ≠ 0 := by simpa using nonempty
    rcases gap.resolve_left positive with ⟨code, code_mem, surrogate⟩
    rcases List.mem_take_iff_getElem.mp code_mem with ⟨index, index_lt, rfl⟩
    rcases Draw.exists_run_below (show index < span set.ranges by omega)
      (Nat.mod_lt _ (Nat.two_pow_pos _)) with ⟨words, drawn⟩
    refine ⟨words, ?_⟩
    rw [StateT.run_map]
    show nth? set.ranges ((Draw.below .bits32 (span set.ranges)).run words).1 = none
    rw [drawn, nth?_eq, List.getElem?_eq_getElem (by omega), Option.bind_some]
    exact (charOf?_eq_none_iff ordered (List.getElem_mem _)).mpr surrogate

end Drawing

end CharSet

/-! ## Written sets -/

/-- The set of a class that was read, or the one that an escape names. -/
def CharSet.Written (set : CharSet) : Prop :=
  (∃ input rest, readClass input = some (.oneOf set, rest)) ∨
    ∃ c, escape? c = some (.oneOf set)

/-- The bracket that closes a class is not its first member, so no class is empty. -/
theorem ne_nil_of_readMembers {fuel : Nat} {input rest : List Char} {ranges : List CharRange}
    (read : readMembers fuel true input = some (ranges, rest)) : ranges ≠ [] := by
  rcases fuel with _ | fuel
  · cases read
  · unfold readMembers at read
    split at read
    · cases read
    · split at read
      · rename_i named names
        rcases Option.bind_eq_some_iff.mp read with ⟨_, _, same⟩
        cases same
        unfold classEscape? at names
        split at names <;> cases names <;> exact List.cons_ne_nil _ _
      · rcases Option.bind_eq_some_iff.mp read with ⟨_, _, readMore⟩
        rcases Option.bind_eq_some_iff.mp readMore with ⟨_, _, same⟩
        cases same
        exact List.cons_ne_nil _ _
    · cases read
    · split at read
      · rename_i closed
        simp at closed
      · rcases Option.bind_eq_some_iff.mp read with ⟨_, _, readMore⟩
        rcases Option.bind_eq_some_iff.mp readMore with ⟨_, _, same⟩
        cases same
        exact List.cons_ne_nil _ _

namespace CharSet.Written

variable {set : CharSet}

theorem ordered (written : set.Written) : ∀ range ∈ set.ranges, range.least ≤ range.greatest := by
  rcases written with ⟨input, rest, read⟩ | ⟨c, names⟩
  · have formed : (oneOf set).Every (Formed []) := (formed_of_readClass read).1
    exact formed _ (.whole _)
  · have formed : (oneOf set).Every (Formed []) := formed_of_escape? names
    exact formed _ (.whole _)

theorem ranges_ne_nil (written : set.Written) : set.ranges ≠ [] := by
  rcases written with ⟨input, rest, read⟩ | ⟨c, names⟩
  · rcases Option.map_eq_some_iff.mp read with ⟨_, readMembers, same⟩
    cases same
    exact ne_nil_of_readMembers readMembers
  · unfold escape? at names
    split at names
    iterate 6
      · cases names
        exact List.cons_ne_nil _ _
    iterate 3 cases names
    split at names
    · cases names
    · split at names <;> cases names

/-- A class that is not too long has a gap when one of its ranges crosses the surrogates. -/
theorem gap_iff (written : set.Written) (counted : set.negated = false)
    (few : set.ranges.length < 3856) :
    set.Gap ↔ ∃ range ∈ set.ranges, ¬Notation.Aside range := by
  have span_eq : span set.ranges = (codes set.ranges).length := by
    rw [span, length_codes, Nat.mod_eq_of_lt (widths_lt few)]
  have span_ne : span set.ranges ≠ 0 := by
    rcases List.exists_mem_of_ne_nil _ written.ranges_ne_nil with ⟨range, range_mem⟩
    rw [span_eq, length_codes]
    have part := List.single_le_sum (fun _ _ => Nat.zero_le _) _
      (List.mem_map_of_mem (f := CharRange.width) range_mem)
    have width_pos := range.width_pos
    omega
  simp only [Gap, counted, Bool.false_eq_true, if_false, or_iff_right span_ne]
  rw [span_eq, List.take_length]
  constructor
  · rintro ⟨code, code_mem, surrogate⟩
    rcases mem_codes written.ordered code_mem with ⟨range, range_mem, lower, upper⟩
    refine ⟨range, range_mem, fun aside => ?_⟩
    rw [IsSurrogate] at surrogate
    rw [Notation.Aside] at aside
    omega
  · rintro ⟨range, range_mem, crossing⟩
    have least_valid : range.least.toNat.isValidChar := range.least.valid
    have greatest_valid : range.greatest.toNat.isValidChar := range.greatest.valid
    simp only [Notation.Aside, Nat.isValidChar] at *
    refine ⟨0xD800, List.mem_flatMap.mpr ⟨range, range_mem, ?_⟩, ⟨by omega, by omega⟩⟩
    rw [List.mem_range'_1, CharRange.width]
    omega

/-- What is drawn is a character of the set, or nothing when the set has a gap. -/
theorem yields_sample (written : set.Written) {σ : Type} [WordSource σ] :
    (set.sample : Draw σ (Option Char)).Yields fun drawn =>
      (∀ c ∈ drawn, if set.negated then (' ' ≤ c ∧ c ≤ '~') ∧ set.covers c = false
        else set.covers c = true) ∧
      (drawn = none → set.Gap) := by
  rcases negated_eq : set.negated with _ | _
  · refine (yields_sample_counted negated_eq written.ordered).imp fun drawn facts => ?_
    refine ⟨facts.1, fun nothing => ?_⟩
    by_contra full
    rw [nothing] at facts
    exact Bool.false_ne_true (facts.2 full)
  · refine (yields_sample_negated negated_eq).imp fun drawn facts => ?_
    refine ⟨fun c given => mem_outside_iff.mp (facts.1 c given), fun nothing => ?_⟩
    rw [Gap, if_pos negated_eq]
    exact facts.2.mp nothing

theorem exists_run_sample_none (written : set.Written) (gap : set.Gap) :
    ∃ words : ScriptedWords,
      ((set.sample : Draw ScriptedWords (Option Char)).run words).1 = none := by
  rcases negated_eq : set.negated with _ | _
  · exact exists_run_sample_counted negated_eq written.ordered gap
  · rw [Gap, if_pos negated_eq] at gap
    exact ⟨{}, (yields_sample_negated negated_eq ({} : ScriptedWords)).2.mpr gap⟩

end CharSet.Written

/-! ## Candidates -/

section Candidates

variable {σ : Type} [WordSource σ]

/-- Nothing at the root keeps a text from being drawn. -/
def HasText : Pattern → Prop
  | oneOf set => ∀ (σ : Type) [WordSource σ],
      (set.sample : Draw σ (Option Char)).Yields fun drawn => drawn.isSome
  | choice branches => branches ≠ []
  | _ => True

/-- The step never gives up. -/
abbrev GoesOn (step : Emitter σ) : Prop := Emits step fun _ => True

omit [WordSource σ] in
theorem goesOn_iterate {step : Emitter σ} (goes : GoesOn step) (count : Nat) :
    GoesOn (iterate step count) :=
  (goes.iterate count).imp fun _ _ => trivial

mutual

theorem goesOn_emit : (pattern : Pattern) → pattern.Every HasText →
    GoesOn (emit pattern : Emitter σ)
  | .empty, _ => emits_nothing trivial
  | .literal c, _ => fun _ => Draw.yields_pure ⟨[c], trivial, rfl⟩
  | .oneOf set, every => by
    intro done
    rw [emit]
    refine (every _ (.whole _) σ).bind fun drawn given => ?_
    rcases Option.isSome_iff_exists.mp given with ⟨c, rfl⟩
    exact Draw.yields_pure ⟨[c], trivial, rfl⟩
  | .choice branches, every => by
    intro done
    rw [emit]
    rcases every_choice_iff.mp every with ⟨nonempty, inner⟩
    exact (Draw.yields_below .bits64 (List.length_pos_iff.mpr nonempty)).bind
      fun index index_lt => goesOn_emitBranch branches inner index_lt done
  | .repeated body least greatest, every => by
    intro done
    rw [emit]
    have inner := goesOn_emit body (every_repeated_iff.mp every).2
    exact (Draw.yields_trivial _).bind fun count _ => goesOn_iterate inner count done

theorem goesOn_emitBranch : (branches : List (List Pattern)) →
    (∀ branch ∈ branches, ∀ piece ∈ branch, piece.Every HasText) → ∀ {index : Nat},
    index < branches.length → GoesOn (emitBranch branches index : Emitter σ)
  | [], _, _, inside => absurd inside (Nat.not_lt_zero _)
  | branch :: _, each, 0, _ => by
    rw [emitBranch]
    exact goesOn_emitAll branch (each branch List.mem_cons_self)
  | _ :: rest, each, index + 1, inside => by
    rw [emitBranch]
    exact goesOn_emitBranch rest (fun branch mem => each branch (List.mem_cons_of_mem _ mem))
      (Nat.lt_of_succ_lt_succ inside)

theorem goesOn_emitAll : (pieces : List Pattern) → (∀ piece ∈ pieces, piece.Every HasText) →
    GoesOn (emitAll pieces : Emitter σ)
  | [], _ => emits_nothing trivial
  | first :: rest, each => by
    rw [emitAll]
    rcases List.forall_mem_cons.mp each with ⟨one, others⟩
    exact ((goesOn_emit first one).andThen (goesOn_emitAll rest others)).imp fun _ _ => trivial

end

theorem yields_text? {pattern : Pattern} (every : pattern.Every HasText) :
    (pattern.text? : Draw σ (Option (List Char))).Yields fun drawn => drawn.isSome := by
  refine (goesOn_emit pattern every []).map fun emitted emitted_eq => ?_
  rcases emitted_eq with ⟨word, -, rfl⟩
  rfl

/-- When candidates never fail to be drawn, an attempt without an answer has used them all. -/
theorem run_repeated_of_attempt {expression : Regex} {pattern : Pattern}
    (drawn : (pattern.text? : Draw σ (Option (List Char))).Yields fun text => text.isSome)
    {attempts : Nat} {words : σ} (done : List (Option (List Char)))
    (unanswered : ((attempt expression pattern attempts).run words).1 = none) :
    ∃ candidates : List (List Char), candidates.length = attempts ∧
      (∀ text ∈ candidates, expression.isMatch text = false) ∧
      (Draw.repeated pattern.text? attempts done).run words =
        (done.reverse ++ candidates.map some,
          ((attempt expression pattern attempts).run words).2) := by
  induction attempts generalizing words done with
  | zero => exact ⟨[], rfl, by simp, by rw [List.map_nil, List.append_nil]; rfl⟩
  | succ attempts ih =>
      rcases first_eq : pattern.text?.run words with ⟨first, remaining⟩
      have given := drawn words
      rw [first_eq] at given
      rcases Option.isSome_iff_exists.mp given with ⟨text, rfl⟩
      have run_eq : (attempt expression pattern (attempts + 1)).run words =
          (if expression.isMatch text then pure (some text)
            else attempt expression pattern attempts : Draw σ (Option (List Char))).run
              remaining := by
        rw [attempt, StateT.run_bind, first_eq]
        rfl
      rw [run_eq] at unanswered ⊢
      split at unanswered
      · cases unanswered
      · rename_i unmatched
        rcases ih (some text :: done) unanswered with ⟨candidates, length_eq, all, repeated_eq⟩
        refine ⟨text :: candidates, by rw [List.length_cons, length_eq],
          List.forall_mem_cons.mpr ⟨Bool.eq_false_iff.mpr unmatched, all⟩, ?_⟩
        rw [if_neg unmatched, Draw.repeated, StateT.run_bind, first_eq]
        show (Draw.repeated pattern.text? attempts (some text :: done)).run remaining = _
        rw [repeated_eq]
        simp

end Candidates

theorem every_hasText_of_read? {source : List Char} {pattern : Pattern}
    (read : read? source = some pattern)
    (full : ∀ set, pattern.Part (.oneOf set) → ¬set.Gap) : pattern.Every HasText := by
  intro part below
  have formed := formed_of_read? read part below
  cases part with
  | oneOf set =>
      intro σ _
      rcases negated_eq : set.negated with _ | _
      · exact (CharSet.yields_sample_counted negated_eq formed).imp
          fun drawn facts => facts.2 (full set below)
      · refine (CharSet.yields_sample_negated negated_eq).imp fun drawn facts => ?_
        have left : set.outside ≠ [] := by
          have gapless := full set below
          rwa [CharSet.Gap, if_pos negated_eq] at gapless
        exact Option.isSome_iff_ne_none.mpr (mt facts.2.mp left)
  | choice branches => exact formed
  | empty | literal | repeated => trivial

/-- What is drawn from a set that was written is one of its characters: a covered one, or for a
negated set a printable one that is not covered. Nothing is drawn only from a set with a gap, and
some source does draw nothing from it. A negated set has a gap when it leaves no printable
character, any other set that is not too long when one of its ranges crosses the surrogates.

A set without a gap does not make an attempt give up: when no other set of a pattern has a gap
either, and there is no answer, then as many candidates were drawn as there are attempts, and none
of them is matched. -/
theorem sample_of_written {set : CharSet} (written : set.Written) :
    (∀ (σ : Type) [WordSource σ], (set.sample : Draw σ (Option Char)).Yields fun drawn =>
      (∀ c ∈ drawn, if set.negated then (' ' ≤ c ∧ c ≤ '~') ∧ set.covers c = false
        else set.covers c = true) ∧
      (drawn = none → set.Gap)) ∧
    (set.negated = true → (set.Gap ↔ ∀ c, ' ' ≤ c → c ≤ '~' → set.covers c = true)) ∧
    (set.negated = false → set.ranges.length < 3856 →
      (set.Gap ↔ ∃ range ∈ set.ranges, ¬Notation.Aside range)) ∧
    (set.Gap → ∃ words : ScriptedWords,
      ((set.sample : Draw ScriptedWords (Option Char)).run words).1 = none) ∧
    (¬set.Gap → ∀ (source : List Char) (pattern : Pattern), read? source = some pattern →
      (∀ other, pattern.Part (.oneOf other) → other = set ∨ ¬other.Gap) →
      ∀ (σ : Type) [WordSource σ] (expression : Regex) (attempts : Nat) (words : σ),
        ((attempt expression pattern attempts).run words).1 = none →
        ∃ candidates : List (List Char), candidates.length = attempts ∧
          (∀ text ∈ candidates, expression.isMatch text = false) ∧
          (Draw.times attempts pattern.text?).run words =
            (candidates.map some, ((attempt expression pattern attempts).run words).2)) := by
  refine ⟨fun σ _ => written.yields_sample, CharSet.gap_iff_of_negated, written.gap_iff,
    written.exists_run_sample_none, ?_⟩
  intro full source pattern read others σ _ expression attempts words unanswered
  have every : pattern.Every HasText := by
    apply every_hasText_of_read? read
    intro other below
    rcases others other below with rfl | gapless
    · exact full
    · exact gapless
  exact run_repeated_of_attempt (yields_text? every) [] unanswered

/-- A digit is drawn whatever the source. -/
theorem sample_of_written_digit : escape? 'd' = some (.oneOf ⟨CharSet.digits, false⟩) ∧
    ∀ words : ScriptedWords, ∃ c,
      ((CharSet.sample ⟨CharSet.digits, false⟩ : Draw ScriptedWords _).run words).1 = some c ∧
        CharSet.covers ⟨CharSet.digits, false⟩ c = true := by
  have named : escape? 'd' = some (.oneOf ⟨CharSet.digits, false⟩) := rfl
  rcases sample_of_written (.inr ⟨'d', named⟩) with ⟨draws, -, gap_iff, -⟩
  refine ⟨named, fun words => ?_⟩
  rcases draws ScriptedWords words with ⟨covered, gap⟩
  rcases drawn : ((CharSet.sample ⟨CharSet.digits, false⟩ : Draw ScriptedWords _).run words).1 with
    _ | c
  · have crosses := (gap_iff rfl (by decide)).mp (gap drawn)
    exact absurd crosses (by decide)
  · exact ⟨c, rfl, covered c drawn⟩

/-! ## A class that crosses the surrogates -/

/-- The characters from the last before the surrogates to the first after them. -/
def crossingSet : CharSet := ⟨[⟨Char.ofNat 0xD7FF, Char.ofNat 0xE000⟩], false⟩

/-- The class of these characters. -/
def crossing : List Char := ['[', Char.ofNat 0xD7FF, '-', Char.ofNat 0xE000, ']']

/-- The expression compiles and the class is read, but the code point in the middle of the range is
a surrogate: the first candidate is given up, and no other is tried. -/
theorem no_text_of_crossing : (Regex.compile? crossing).isSome ∧
    readClass crossing.tail = some (.oneOf crossingSet, []) ∧
    ((crossingSet.sample : Draw ScriptedWords (Option Char)).run
      { script := [2 ^ 31] }).1 = none ∧
    (matching (String.ofList crossing) : Draw ScriptedWords (Option String)).run
      { script := [0, 2 ^ 31] } = (none, {}) := by
  have compiled : (Regex.compile? crossing).isSome := by decide +kernel
  have read : read? crossing = some (.choice [[.oneOf crossingSet]]) := rfl
  have drawn : (text? (.choice [[.oneOf crossingSet]]) :
      Draw ScriptedWords (Option (List Char))).run { script := [0, 2 ^ 31] } = (none, {}) := rfl
  refine ⟨compiled, rfl, rfl, ?_⟩
  rw [matching, String.toList_ofList, read, ← Option.some_get compiled]
  simp only [candidateLimit, StateT.run_map, attempt]
  rw [StateT.run_bind, drawn]
  rfl

end Pattern

end ApiStub
