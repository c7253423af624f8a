import ApiStub.Pattern.Sample
import ApiStub.Proofs.Draws
import ApiStub.Proofs.NotationPattern
import ApiStub.Proofs.RegexPlaces
import ApiStub.Random.SplitMix
import Mathlib.Data.List.Forall2

/-!
# Every candidate matches

A text that is drawn from the pattern of a notation is matched by its expression. So the first
candidate is the answer, whatever the source. What is drawn is followed from the characters of
classes through repetitions to whole branches; at each level the expression reads what the pattern
emits, wherever it stands, and the anchors hold because a candidate is the whole text.

The statement needs that a class can be drawn from. A class whose ranges overlap so often that they
span a multiple of 2 ^ 32 code points has characters, but no texts.
-/

namespace ApiStub

namespace Pattern

open Regex (CharClass)

/-! ## Characters -/

theorem CharRange.contains_iff {range : CharRange} {c : Char} :
    range.contains c ↔ range.least.toNat ≤ c.toNat ∧ c.toNat ≤ range.greatest.toNat := by
  simp only [CharRange.contains, Bool.and_eq_true, decide_eq_true_eq, Char.le_def]
  rfl

namespace CharSet

theorem mem_printable {c : Char} (lower : 32 ≤ c.toNat) (upper : c.toNat < 127) :
    c ∈ printable :=
  List.mem_map.mpr ⟨c.toNat - 32, List.mem_range.mpr (by omega), by
    rw [Nat.add_sub_cancel' lower, Char.ofNat_toNat]⟩

/-- A range beside the surrogates has a character at every index. -/
theorem charOf?_of_aside {range : CharRange} (aside : Notation.Aside range)
    (ordered : range.least ≤ range.greatest) {index : Nat} (inside : index < range.width) :
    ∃ c, charOf? (range.least.toNat + index) = some c ∧ range.contains c := by
  have least_valid : range.least.toNat.isValidChar := range.least.valid
  have greatest_valid : range.greatest.toNat.isValidChar := range.greatest.valid
  have order : range.least.toNat ≤ range.greatest.toNat := Char.le_def.mp ordered
  simp only [CharRange.width, Notation.Aside, Nat.isValidChar] at *
  have valid : (range.least.toNat + index).isValidChar := by
    simp only [Nat.isValidChar]
    omega
  have code : (Char.ofNat (range.least.toNat + index)).toNat = range.least.toNat + index := by
    rw [Char.ofNat, dif_pos valid]
    rfl
  refine ⟨Char.ofNat (range.least.toNat + index), by rw [charOf?, if_pos valid], ?_⟩
  rw [CharRange.contains_iff, code]
  omega

theorem nth?_of_lt {ranges : List CharRange} (aside : ∀ range ∈ ranges, Notation.Aside range)
    (ordered : ∀ range ∈ ranges, range.least ≤ range.greatest) {index : Nat}
    (inside : index < (ranges.map CharRange.width).sum) :
    ∃ c, nth? ranges index = some c ∧ ranges.any fun range => range.contains c := by
  induction ranges generalizing index with
  | nil => cases inside
  | cons range rest ih =>
      rw [List.forall_mem_cons] at aside ordered
      rw [List.map_cons, List.sum_cons] at inside
      simp only [nth?, List.any_cons, Bool.or_eq_true]
      split
      · rename_i near
        rcases charOf?_of_aside aside.1 ordered.1 near with ⟨c, found, contained⟩
        exact ⟨c, found, .inl contained⟩
      · rcases ih aside.2 ordered.2 (show index - range.width < _ by omega) with
          ⟨c, found, contained⟩
        exact ⟨c, found, .inr contained⟩

/-- The characters that the set is drawn from. -/
def Gives (set : CharSet) (c : Char) : Prop :=
  if set.negated then c ∈ set.outside else set.covers c

/-- A set that can be drawn from yields one of its characters. -/
theorem yields_sample {σ : Type} [WordSource σ] {set : CharSet}
    (ordered : ∀ range ∈ set.ranges, range.least ≤ range.greatest)
    (drawable : Notation.DrawableSet set.negated set.ranges) :
    (set.sample : Draw σ (Option Char)).Yields fun drawn => ∃ c, set.Gives c ∧ drawn = some c := by
  rcases set with ⟨ranges, _ | _⟩
  · rcases drawable with ⟨aside, nonempty⟩
    simp only [sample, Bool.false_eq_true, if_false, beq_eq_false_iff_ne.mpr nonempty]
    refine (Draw.yields_below .bits32 (Nat.pos_of_ne_zero nonempty)).map fun index index_lt => ?_
    -- A count that has started again is too small, so the index still lies in some range.
    have inside := Nat.lt_of_lt_of_le index_lt (Nat.mod_le _ _)
    rcases nth?_of_lt aside ordered inside with ⟨c, found, contained⟩
    exact ⟨c, contained, found⟩
  · simp only [sample, if_true]
    split
    · rename_i nothing
      exact absurd nothing drawable
    · refine (Draw.yields_below .bits64 (List.length_pos_iff.mpr drawable)).map
        fun index index_lt => ?_
      exact ⟨_, List.getElem_mem index_lt, List.getElem?_eq_getElem index_lt⟩

end CharSet

/-! ## Emitted words -/

section Emitting

variable {σ : Type}

/-- The step never gives up, and puts a word of the language in front. -/
def Emits (step : Emitter σ) (language : List Char → Prop) : Prop :=
  ∀ done, (step done).Yields fun result =>
    ∃ word, language word ∧ result = some (word.reverse ++ done)

variable {step first second : Emitter σ} {language following : List Char → Prop}

theorem emits_nothing (accepted : language []) :
    Emits (fun done => pure (some done) : Emitter σ) language :=
  fun _ => Draw.yields_pure ⟨[], accepted, rfl⟩

theorem Emits.andThen (emits : Emits first language) (emits_next : Emits second following) :
    Emits (andThen first second) fun word =>
      ∃ front rest, language front ∧ following rest ∧ word = front ++ rest := by
  intro done
  refine (emits done).bind fun result result_eq => ?_
  rcases result_eq with ⟨front, accepted, rfl⟩
  refine (emits_next _).imp fun result result_eq => ?_
  rcases result_eq with ⟨rest, accepted_next, rfl⟩
  exact ⟨front ++ rest, ⟨front, rest, accepted, accepted_next, rfl⟩, by simp⟩

theorem Emits.imp (emits : Emits step language) (imp : ∀ word, language word → following word) :
    Emits step following := by
  intro done
  refine (emits done).imp fun result result_eq => ?_
  rcases result_eq with ⟨word, accepted, same⟩
  exact ⟨word, imp word accepted, same⟩

theorem Emits.iterate (emits : Emits step language) (count : Nat) :
    Emits (iterate step count) fun word => ∃ words : List (List Char),
      words.length = count ∧ (∀ word ∈ words, language word) ∧ word = words.flatten := by
  induction count with
  | zero => exact emits_nothing ⟨[], rfl, by simp, rfl⟩
  | succ count ih =>
      refine (emits.andThen ih).imp fun word parts => ?_
      rcases parts with ⟨front, rest, accepted, ⟨words, length_eq, all_accepted, rfl⟩, rfl⟩
      exact ⟨front :: words, by rw [List.length_cons, length_eq],
        List.forall_mem_cons.mpr ⟨accepted, all_accepted⟩, rfl⟩

variable [WordSource σ]

theorem emits_oneOf {set : CharSet} (ordered : ∀ range ∈ set.ranges, range.least ≤ range.greatest)
    (drawable : Notation.DrawableSet set.negated set.ranges)
    (accepted : ∀ c, set.Gives c → language [c]) :
    Emits (emit (.oneOf set) : Emitter σ) language := by
  intro done
  rw [emit]
  refine (CharSet.yields_sample ordered drawable).bind fun drawn drawn_eq => ?_
  rcases drawn_eq with ⟨c, given, rfl⟩
  exact Draw.yields_pure ⟨[c], accepted c given, rfl⟩

theorem emits_repeated {body : Pattern} {least greatest : Nat}
    (emits : Emits (emit body : Emitter σ) language) (ordered : least ≤ greatest) :
    Emits (emit (.repeated body least greatest) : Emitter σ) fun word =>
      ∃ words : List (List Char), (least ≤ words.length ∧ words.length ≤ greatest) ∧
        (∀ word ∈ words, language word) ∧ word = words.flatten := by
  intro done
  rw [emit]
  refine (Draw.yields_natBetween .bits32 ordered).bind fun count bounds => ?_
  refine (emits.iterate count done).imp fun result result_eq => ?_
  rcases result_eq with ⟨word, ⟨words, rfl, all_accepted, word_eq⟩, same⟩
  exact ⟨word, ⟨words, bounds, all_accepted, word_eq⟩, same⟩

theorem emits_branch {α : Type} {reads : α → List Char → Prop} {branches : List (List Pattern)}
    {expressions : List α}
    (emits : List.Forall₂ (fun branch expression =>
      Emits (emitAll branch : Emitter σ) (reads expression)) branches expressions)
    {index : Nat} (inside : index < branches.length) :
    Emits (emitBranch branches index : Emitter σ) fun word =>
      ∃ expression ∈ expressions, reads expression word := by
  induction emits generalizing index with
  | nil => cases inside
  | cons first others ih =>
      rcases index with _ | index
      · exact first.imp fun word reads => ⟨_, List.mem_cons_self, reads⟩
      · refine (ih (Nat.lt_of_succ_lt_succ inside)).imp fun word found => ?_
        rcases found with ⟨expression, expression_mem, reads⟩
        exact ⟨expression, List.mem_cons_of_mem _ expression_mem, reads⟩

/-- A choice emits what one of several branches emits. -/
theorem emits_choice {α : Type} {reads : α → List Char → Prop} {branches : List (List Pattern)}
    {expressions : List α} (nonempty : branches ≠ [])
    (emits : List.Forall₂ (fun branch expression =>
      Emits (emitAll branch : Emitter σ) (reads expression)) branches expressions) :
    Emits (emit (.choice branches) : Emitter σ) fun word =>
      ∃ expression ∈ expressions, reads expression word := by
  intro done
  rw [emit]
  exact (Draw.yields_below .bits64 (List.length_pos_iff.mpr nonempty)).bind
    fun index index_lt => emits_branch emits index_lt done

end Emitting

end Pattern

namespace Notation

open Pattern (CharRange CharSet Emitter Emits emit emitAll emitBranch)
open Regex (CharClass Moves Reads Place endsOfAll)

/-! ## Classes -/

theorem contains_ranges (least greatest c : Char) :
    (CharClass.ranges [⟨least.toNat, greatest.toNat⟩]).contains c =
      CharRange.contains ⟨least, greatest⟩ c := by
  rw [Bool.eq_iff_iff, Pattern.CharRange.contains_iff]
  simp [CharClass.contains, Unicode.covers]

theorem anyContains_eq (parts : List CharClass) (c : Char) :
    CharClass.anyContains parts c = parts.any fun part => part.contains c := by
  induction parts with
  | nil => rfl
  | cons first rest ih => rw [CharClass.anyContains, ih, List.any_cons]

theorem contains_ofMembers (members : List CharClass) (c : Char) :
    (CharClass.ofMembers members).contains c = members.any fun member => member.contains c := by
  rcases members with _ | ⟨member, _ | ⟨other, rest⟩⟩
  · rfl
  · simp [CharClass.ofMembers]
  · exact anyContains_eq _ c

namespace Shorthand

theorem contains_of_printable (kind : Shorthand) {c : Char} (printable : c ∈ CharSet.printable) :
    kind.charClass.contains c = kind.ranges.any fun range => range.contains c := by
  have all : (CharSet.printable.all fun c =>
      kind.charClass.contains c == kind.ranges.any fun range => range.contains c) = true := by
    cases kind <;> decide +kernel
  exact eq_of_beq (List.all_eq_true.mp all c printable)

theorem printable_of_covered (kind : Shorthand) {c : Char}
    (covered : kind.ranges.any fun range => range.contains c) : c ∈ CharSet.printable := by
  have bounded : ∀ range ∈ kind.ranges, 32 ≤ range.least.toNat ∧ range.greatest.toNat < 127 := by
    cases kind <;> decide
  rcases List.any_eq_true.mp covered with ⟨range, range_mem, contained⟩
  have bounds := bounded range range_mem
  rw [Pattern.CharRange.contains_iff] at contained
  exact Pattern.CharSet.mem_printable (by omega) (by omega)

end Shorthand

namespace Item

/-- Among the printable characters an item has those that its ranges have. -/
theorem contains_of_printable (item : Item) {c : Char} (printable : c ∈ CharSet.printable) :
    item.charClass.contains c = item.ranges.any fun range => range.contains c := by
  cases item with
  | single member _ =>
      simp [charClass, ranges, CharClass.single, contains_ranges, CharRange.single]
  | range least greatest _ _ _ => simp [charClass, ranges, contains_ranges]
  | shorthand kind => exact kind.contains_of_printable printable

theorem contains_of_covered (item : Item) {c : Char}
    (covered : item.ranges.any fun range => range.contains c) : item.charClass.contains c := by
  cases item with
  | single member _ =>
      simpa [charClass, ranges, CharClass.single, contains_ranges, CharRange.single] using covered
  | range least greatest _ _ _ => simpa [charClass, ranges, contains_ranges] using covered
  | shorthand kind =>
      have printable := kind.printable_of_covered covered
      rwa [charClass, kind.contains_of_printable printable]

theorem ordered_ranges (item : Item) : ∀ range ∈ item.ranges, range.least ≤ range.greatest := by
  cases item with
  | single member _ => simp [ranges, CharRange.single]
  | range least greatest _ _ ordered => simpa [ranges] using ordered
  | shorthand kind => cases kind <;> decide

end Item

theorem ordered_rangesOf (items : List Item) :
    ∀ range ∈ rangesOf items, range.least ≤ range.greatest := by
  intro range range_mem
  rcases List.mem_flatMap.mp range_mem with ⟨item, -, range_mem⟩
  exact item.ordered_ranges range range_mem

theorem covers_rangesOf (items : List Item) (negated : Bool) (c : Char) :
    CharSet.covers ⟨rangesOf items, negated⟩ c =
      items.any fun item => item.ranges.any fun range => range.contains c := by
  simp only [CharSet.covers, rangesOf, List.any_flatMap]

/-- A character that the ranges of a class give is in the class. -/
theorem contains_bracket {negated : Bool} {items : List Item} {c : Char}
    (given : CharSet.Gives ⟨rangesOf items, negated⟩ c) :
    (CharClass.bracket negated (.ofMembers (items.map Item.charClass))).contains c := by
  simp only [CharClass.contains, contains_ofMembers, List.any_map]
  cases negated with
  | false =>
      simp only [CharSet.Gives, Bool.false_eq_true, if_false, covers_rangesOf] at given
      rcases List.any_eq_true.mp given with ⟨item, item_mem, covered⟩
      simp only [Bool.bne_false, List.any_eq_true]
      exact ⟨item, item_mem, item.contains_of_covered covered⟩
  | true =>
      simp only [CharSet.Gives, if_true, CharSet.outside, List.mem_filter] at given
      rcases given with ⟨printable, outside⟩
      have same : (items.any fun item => item.charClass.contains c) =
          items.any fun item => item.ranges.any fun range => range.contains c :=
        List.any_congr rfl fun item => item.contains_of_printable printable
      rw [covers_rangesOf, ← same] at outside
      simpa using outside

/-! ## Emission -/

namespace Counts

theorem ordered_bounds {counts : Counts} (drawable : counts.Drawable) :
    counts.bounds.1 ≤ counts.bounds.2 := by
  cases counts with
  | star => decide
  | plus => decide
  | optional => decide
  | exactly count => exact Nat.le_refl _
  | atLeast least =>
      have wrapped := Nat.mod_eq_of_lt drawable
      simp only [bounds, wrapped]
      omega
  | between least greatest ordered => exact ordered

theorem least_eq (counts : Counts) : counts.limits.1 = counts.bounds.1 := by cases counts <;> rfl

theorem greatest_le (counts : Counts) {most : Nat} (limit : counts.limits.2 = some most) :
    counts.bounds.2 ≤ most := by
  cases counts <;> cases limit <;> exact Nat.le_refl _

end Counts

theorem Branches.patterns_ne_nil (branches : Branches) : branches.patterns ≠ [] := by
  cases branches <;> exact List.cons_ne_nil _ _

section

variable {σ : Type} [WordSource σ]

theorem emits_literal (c : Char) :
    Emits (emit (.literal c) : Emitter σ) (Reads (.chars (.single c))) := by
  have contained : (CharClass.single c).contains c := by
    simp [CharClass.single, contains_ranges, Pattern.CharRange.contains_iff]
  exact fun done => Draw.yields_pure ⟨[c], Regex.reads_chars contained, rfl⟩

theorem emits_any : Emits (emit Atom.any.pattern : Emitter σ) (Reads Atom.any.expression) := by
  refine Pattern.emits_oneOf (by decide) (by decide) fun c given => Regex.reads_chars ?_
  have bounded : ∀ range ∈ CharSet.alphanumerics, 10 < range.least.toNat := by decide
  rcases List.any_eq_true.mp given with ⟨range, range_mem, contained⟩
  have bound := bounded range range_mem
  rw [Pattern.CharRange.contains_iff] at contained
  have other : (CharClass.single '\n').contains c = false := by
    rw [CharClass.single, contains_ranges, Bool.eq_false_iff, ne_eq, Pattern.CharRange.contains_iff]
    exact fun inside => absurd inside.2 (Nat.not_le.mpr (Nat.lt_of_lt_of_le bound contained.1))
  rw [CharClass.anyInLine, CharClass.contains, other]
  rfl

theorem emits_bracket {negated : Bool} {items : List Item} {set : CharClass}
    (drawable : DrawableSet negated (rangesOf items))
    (same : ∀ c, set.contains c =
      (CharClass.bracket negated (.ofMembers (items.map Item.charClass))).contains c) :
    Emits (emit (.oneOf ⟨rangesOf items, negated⟩) : Emitter σ) (Reads (.chars set)) :=
  Pattern.emits_oneOf (ordered_rangesOf items) drawable fun c given =>
    Regex.reads_chars ((same c).trans (contains_bracket given))

/-- A class that a letter stands for is drawn from as if it stood in brackets. -/
theorem emits_shorthand (kind : Shorthand) (negated : Bool) :
    Emits (emit (Atom.shorthand kind negated).pattern : Emitter σ)
      (Reads (Atom.shorthand kind negated).expression) := by
  have drawable : DrawableSet negated (rangesOf [.shorthand kind]) := by
    cases kind <;> cases negated <;> decide +kernel
  have ranges_eq : rangesOf [.shorthand kind] = kind.ranges := List.append_nil _
  rw [Atom.pattern, ← ranges_eq]
  cases negated with
  | false => exact emits_bracket drawable fun c => (Bool.bne_false _).symm
  | true => exact emits_bracket drawable fun c => (Bool.bne_true _).symm

/-- A quantifier repeats within the counts that match. -/
theorem emits_quantified {quantifier : Option Quantifier}
    (drawable : ∀ q ∈ quantifier, q.counts.Drawable) {pattern : Pattern} {expression : Regex}
    (emits : Emits (emit pattern : Emitter σ) (Reads expression)) :
    Emits (emit (repeatedPattern quantifier pattern) : Emitter σ)
      (Reads (repeatedExpression quantifier expression)) := by
  rcases quantifier with _ | ⟨counts, lazily⟩
  · exact emits
  · have ordered := counts.ordered_bounds (drawable _ rfl)
    refine (Pattern.emits_repeated emits ordered).imp fun word parts => ?_
    rcases parts with ⟨words, ⟨enough, few⟩, read, rfl⟩
    rw [← counts.least_eq] at enough
    exact Regex.reads_repetition read enough fun most limit =>
      few.trans (counts.greatest_le limit)

mutual

/-- Every branch emits words that its expression reads. -/
theorem Branches.emits : ∀ branches : Branches, branches.Drawable →
    List.Forall₂ (fun branch expression =>
      Emits (emitAll branch : Emitter σ) (Reads expression)) branches.patterns branches.expressions
  | .last sequence, drawable =>
      .cons ((sequence.emits drawable).imp fun _ => Regex.reads_ofParts) .nil
  | .more sequence rest, drawable =>
      .cons ((sequence.emits drawable.1).imp fun _ => Regex.reads_ofParts) (rest.emits drawable.2)

theorem Sequence.emits : ∀ sequence : Sequence, sequence.Drawable →
    Emits (emitAll sequence.patterns : Emitter σ) (Moves (endsOfAll sequence.expressions))
  | .nil, _ => Pattern.emits_nothing Regex.moves_id
  | .cons atom quantifier rest, drawable => by
      have first := emits_quantified drawable.2.1 (atom.emits drawable.1)
      refine (first.andThen (rest.emits drawable.2.2)).imp fun word parts => ?_
      rcases parts with ⟨front, remaining, reads, moves, rfl⟩
      exact Regex.moves_endsOfAll_cons reads moves

theorem Atom.emits : ∀ atom : Atom, atom.Drawable →
    Emits (emit atom.pattern : Emitter σ) (Reads atom.expression)
  | .anchor _, drawable => drawable.elim
  | .literal c _, _ => emits_literal c
  | .escaped c _, _ => emits_literal c
  | .any, _ => emits_any
  | .shorthand kind negated, _ => emits_shorthand kind negated
  | .control control, _ => emits_literal control.char
  | .bracket _ _ _, drawable => emits_bracket drawable fun _ => rfl
  | .group _ body, drawable => by
      refine (Pattern.emits_choice body.patterns_ne_nil (body.emits drawable)).imp
        fun word found => ?_
      rcases found with ⟨branch, branch_mem, reads⟩
      intro text places place ascending place_mem ahead
      exact Regex.mem_ends_ofBranches branch_mem ascending
        (reads text places place ascending place_mem ahead)

end

/-! ## Anchors -/

theorem Sequence.emitAll_ending (finish : Bool) (sequence : Sequence) :
    (emitAll (anchored.ending finish sequence).patterns : Emitter σ) =
      emitAll sequence.patterns := by
  match sequence with
  | .nil => cases finish <;> rfl
  | .cons atom quantifier rest =>
      have ih := rest.emitAll_ending finish
      simp only [anchored.ending, Sequence.patterns, emitAll, ih]

/-- Anchors emit nothing. -/
theorem Sequence.emitAll_anchored (start finish : Bool) (sequence : Sequence) :
    (emitAll (sequence.anchored start finish).patterns : Emitter σ) =
      emitAll sequence.patterns := by
  rw [← sequence.emitAll_ending finish]
  cases start <;> rfl

omit [WordSource σ] in
theorem Sequence.expressions_ending (finish : Bool) (sequence : Sequence) :
    (anchored.ending finish sequence).expressions =
      sequence.expressions ++ if finish then [.look .finish] else [] := by
  match sequence with
  | .nil => cases finish <;> rfl
  | .cons atom quantifier rest =>
      have ih := rest.expressions_ending finish
      simp only [anchored.ending, Sequence.expressions, ih, List.cons_append]

theorem Sequence.expressions_anchored (start finish : Bool) (sequence : Sequence) :
    (sequence.anchored start finish).expressions = (if start then [.look .start] else []) ++
      (sequence.expressions ++ if finish then [.look .finish] else []) := by
  rw [← sequence.expressions_ending finish]
  cases start <;> rfl

/-- What a sequence reads is matched between anchors when it is the whole text. -/
theorem Sequence.mem_ends_anchored (start finish : Bool) {sequence : Sequence} {word : List Char}
    (moves : Moves (endsOfAll sequence.expressions) word) :
    (Place.mk 0 none word).after word ∈
      (Regex.ofParts (sequence.anchored start finish).expressions).ends (Place.all word) := by
  have first_mem : Place.mk 0 none word ∈ Place.all word :=
    Regex.Place.mem_all_iff.mpr ⟨[], rfl, rfl, rfl⟩
  have begun : Place.mk 0 none word ∈
      endsOfAll (if start then [.look .start] else []) (Place.all word) := by
    cases start with
    | false => exact first_mem
    | true => exact List.mem_filter.mpr ⟨first_mem, rfl⟩
  have ascending := Regex.keeps_endsOfAll (if start then [.look .start] else []) word _
    (Regex.Ascending.all word)
  have read := moves word _ _ ascending begun (List.prefix_refl word)
  rw [Regex.ends_ofParts, sequence.expressions_anchored, Regex.endsOfAll_append,
    Regex.endsOfAll_append]
  cases finish with
  | false => exact read
  | true =>
      refine List.mem_filter.mpr ⟨read, ?_⟩
      simp [Regex.Look.holds, Place.after]

/-- Every branch emits texts that its expression with anchors matches. -/
theorem Branches.emits_anchored (start finish : Bool) (branches : Branches)
    (drawable : branches.Drawable) :
    List.Forall₂ (fun branch expression => Emits (emitAll branch : Emitter σ) fun word =>
        (Place.mk 0 none word).after word ∈ expression.ends (Place.all word))
      (branches.anchored start finish).patterns (branches.anchored start finish).expressions := by
  match branches with
  | .last sequence =>
      refine .cons ?_ .nil
      rw [sequence.emitAll_anchored]
      exact (sequence.emits drawable).imp fun _ => sequence.mem_ends_anchored start finish
  | .more sequence rest =>
      refine .cons ?_ (rest.emits_anchored false finish drawable.2)
      rw [sequence.emitAll_anchored]
      exact (sequence.emits drawable.1).imp fun _ => sequence.mem_ends_anchored start false

end

end Notation

/-! ## The first candidate -/

namespace Pattern

variable {σ : Type} [WordSource σ]

theorem run_text? {pattern : Pattern} {text : List Char} {words : σ}
    (emitted : ((emit pattern []).run words).1 = some (text.reverse ++ [])) :
    pattern.text?.run words = (some text, ((emit pattern []).run words).2) := by
  have drawn : (pattern.text?.run words).1 =
      ((emit pattern []).run words).1.map List.reverse := rfl
  refine Prod.ext ?_ rfl
  rw [drawn, emitted]
  simp

/-- A first candidate that is matched is the answer. -/
theorem run_attempt {expression : Regex} {pattern : Pattern} {text : List Char}
    {words remaining : σ} (drawn : pattern.text?.run words = (some text, remaining))
    (matched : expression.isMatch text) (attempts : Nat) :
    (attempt expression pattern (attempts + 1)).run words = (some text, remaining) := by
  rw [attempt, StateT.run_bind, drawn]
  show (if expression.isMatch text then pure (some text)
    else attempt expression pattern attempts : Draw σ (Option (List Char))).run remaining = _
  rw [if_pos matched]
  rfl

/-- The pattern of a notation gives a text whatever the source, the expression matches the text,
and the text is the answer after one attempt. -/
theorem matching_of_notation {start finish : Bool} {branches : Notation.Branches}
    {expression : Regex}
    (compiled : Regex.compile? (branches.source start finish) = some expression)
    (drawable : branches.Drawable) :
    ∃ pattern, read? (branches.source start finish) = some pattern ∧ ∀ words : σ,
      ∃ text remaining, pattern.text?.run words = (some text, remaining) ∧
        expression.isMatch text ∧
        (matching (String.ofList (branches.source start finish))).run words =
          (some (String.ofList text), remaining) := by
  have source_eq := branches.text_anchored start finish
  rw [← source_eq] at compiled ⊢
  rcases Notation.Branches.eq_of_compile? compiled with ⟨fits, rfl⟩
  have read := Notation.Branches.read?_text fits
  refine ⟨_, read, fun words => ?_⟩
  have emits := emits_choice (σ := σ) (branches.anchored start finish).patterns_ne_nil
    (branches.emits_anchored start finish drawable)
  rcases emits [] words with ⟨text, ⟨branch, branch_mem, reached⟩, emitted⟩
  have drawn := run_text? emitted
  have matched := Regex.isMatch_of_mem
    (Regex.mem_ends_ofBranches branch_mem (Regex.Ascending.all text) reached)
  refine ⟨text, _, drawn, matched, ?_⟩
  simp only [matching, String.toList_ofList, compiled, read, StateT.run_map, candidateLimit,
    run_attempt drawn matched]
  rfl

/-- The notation `(?:[A-Z]+-)?[0-9]+?`. -/
def plate : Notation.Branches :=
  .last (.cons (.group false (.last (.cons (.bracket false capital []) (some ⟨.plus, false⟩)
      (.cons (.literal '-' (by decide)) none .nil))))
    (some ⟨.optional, false⟩) (.cons (.bracket false digit []) (some ⟨.plus, true⟩) .nil))
where
  /-- A capital letter. -/
  capital : Notation.Item := .range 'A' 'Z' (by decide) (by decide) (by decide)
  /-- A decimal digit. -/
  digit : Notation.Item := .range '0' '9' (by decide) (by decide) (by decide)

theorem matching_of_notation_plate : plate.Drawable ∧ ∀ words : ScriptedWords, ∃ text remaining,
    (matching "^(?:[A-Z]+-)?[0-9]+?$").run words = (some (String.ofList text), remaining) := by
  have drawable : plate.Drawable := by
    have capital : Notation.DrawableSet false (Notation.rangesOf [plate.capital]) := by decide
    have digit : Notation.DrawableSet false (Notation.rangesOf [plate.digit]) := by decide
    simp [plate, Notation.Branches.Drawable, Notation.Sequence.Drawable, Notation.Atom.Drawable,
      Notation.Counts.Drawable, capital, digit]
  have source_eq : String.ofList (plate.source true true) = "^(?:[A-Z]+-)?[0-9]+?$" := by
    decide +kernel
  have compiled : (Regex.compile? (plate.source true true)).isSome := by decide +kernel
  refine ⟨drawable, fun words => ?_⟩
  rcases matching_of_notation (σ := ScriptedWords) (Option.some_get compiled).symm drawable with
    ⟨pattern, -, drawn⟩
  rcases drawn words with ⟨text, remaining, -, -, answered⟩
  exact ⟨text, remaining, by rw [← source_eq, answered]⟩

end Pattern

end ApiStub
