import ApiStub.Proofs.PatternTexts

/-!
# Ranges that overlap too often

The characters of a class are counted by the widths of its ranges, and the count has 32 bits. A
class may name one range again and again: the expression stays as small as with one range, but
after 2 ^ 12 times the widest range the count is back at zero. Such a class has characters, and no
text is ever drawn from it.
-/

namespace ApiStub

namespace Notation

/-- All characters beyond the first 2 ^ 16 code points. -/
def supplementary : Item :=
  .range (Char.ofNat 0x10000) (Char.ofNat 0x10FFFF) (by decide) (by decide) (by decide)

/-- A class that names one range again and again. -/
def overlapping (more : Nat) : Branches :=
  .last (.cons (.bracket false supplementary (List.replicate more supplementary)) none .nil)

end Notation

namespace Regex

open Unicode (Range)

theorem coalesceFrom_replicate (range : Range) (count : Nat)
    (ordered : range.least ≤ range.greatest) :
    coalesceFrom range (List.replicate count range) = [range] := by
  induction count with
  | zero => rfl
  | succ count ih =>
      have touching : range.least ≤ range.greatest + 1 := by omega
      rw [List.replicate_succ, coalesceFrom, if_pos touching, Nat.max_self]
      exact ih

theorem coalesce_replicate (range : Range) (more : Nat) (ordered : range.least ≤ range.greatest) :
    coalesce (List.replicate (more + 1) range) = [range] := by
  have sorted : (List.replicate (more + 1) range).mergeSort
      (fun left right => left.least ≤ right.least) = List.replicate (more + 1) range :=
    List.mergeSort_of_pairwise (by simp [List.pairwise_replicate])
  simp only [coalesce, sorted]
  exact coalesceFrom_replicate range more ordered

namespace CharClass

theorem allCodeRanges_replicate (set : CharClass) (range : Range)
    (single : set.codeRanges = [range]) (count : Nat) :
    allCodeRanges (List.replicate count set) = List.replicate count range := by
  induction count with
  | zero => rfl
  | succ count ih => rw [List.replicate_succ, allCodeRanges, single, ih]; rfl

theorem depthOfAll_replicate (set : CharClass) (count : Nat) :
    depthOfAll (List.replicate count set) ≤ set.depth := by
  induction count with
  | zero => exact Nat.zero_le _
  | succ count ih => rw [List.replicate_succ, depthOfAll]; omega

/-- A range is the same class however often it is named. -/
theorem codeRanges_ofMembers_replicate (range : Range) (ordered : range.least ≤ range.greatest)
    (more : Nat) :
    (ofMembers (List.replicate (more + 1) (ranges [range]))).codeRanges = [range] := by
  have single : (ranges [range]).codeRanges = [range] := coalesce_replicate range 0 ordered
  rcases more with _ | more
  · exact single
  · show coalesce (allCodeRanges (List.replicate (more + 2) (ranges [range]))) = [range]
    rw [allCodeRanges_replicate _ _ single, coalesce_replicate range (more + 1) ordered]

theorem depth_ofMembers_replicate (list : List Range) (more : Nat) :
    (ofMembers (List.replicate (more + 1) (ranges list))).depth ≤ 1 := by
  rcases more with _ | more
  · exact Nat.zero_le 1
  · have flat := depthOfAll_replicate (ranges list) (more + 2)
    show depthOfAll (List.replicate (more + 2) (ranges list)) + 1 ≤ 1
    exact Nat.succ_le_succ flat

end CharClass

end Regex

namespace Notation

open Regex (CharClass)

/-- The expression of the class. -/
theorem expressions_overlapping (more : Nat) : Regex.ofBranches (overlapping more).expressions =
    .chars (.bracket false (.ofMembers (List.replicate (more + 1) supplementary.charClass))) := by
  simp only [overlapping, Branches.expressions, Sequence.expressions, Atom.expression,
    repeatedExpression, List.map_cons, List.map_replicate]
  rfl

theorem isSmall_overlapping (more : Nat) :
    Regex.isSmall (.ofBranches (overlapping more).expressions) := by
  have ranges_eq : (CharClass.bracket false
      (.ofMembers (List.replicate (more + 1) supplementary.charClass))).toRanges =
        [⟨0x10000, 0x10FFFF⟩] := by
    have codes := CharClass.codeRanges_ofMembers_replicate ⟨0x10000, 0x10FFFF⟩ (by decide) more
    simp only [CharClass.toRanges, CharClass.codeRanges, Bool.false_eq_true, if_false]
    rw [show supplementary.charClass = .ranges [⟨0x10000, 0x10FFFF⟩] from rfl, codes]
    rfl
  rw [expressions_overlapping, Regex.isSmall, Regex.size, CharClass.size, ranges_eq]
  · decide +kernel
  all_goals
    intros
    simp_all

theorem compile?_overlapping (more : Nat) : Regex.compile? (overlapping more).text =
    some (.ofBranches (overlapping more).expressions) := by
  have class_read := readBracket_text false supplementary (List.replicate more supplementary) []
  have branches_read : ∀ fuel, Regex.readBranches (fuel + 4) (overlapping more).text =
      some ((overlapping more).expressions, []) := by
    intro fuel
    simp only [overlapping, Branches.text, Sequence.text, Atom.head, Atom.tail, markText,
      Option.map_none, Option.getD_none, List.append_nil]
    rw [Regex.readBranches, readSequence_cons (by decide) (by decide) rfl, Regex.readAtom,
      class_read]
    rfl
  have shallow : (Regex.ofBranches (overlapping more).expressions).depth ≤ Regex.maxDepth := by
    have flat := CharClass.depth_ofMembers_replicate [⟨0x10000, 0x10FFFF⟩] more
    rw [expressions_overlapping]
    exact Nat.le_trans (Nat.succ_le_succ flat) (by decide)
  have fuel_eq : 4 * ((overlapping more).text.length + 1) =
      4 * (overlapping more).text.length + 4 := by omega
  rw [Regex.compile?, Regex.read?, fuel_eq, branches_read]
  simp only [shallow, if_true]
  exact Option.filter_eq_some_iff.mpr ⟨rfl, isSmall_overlapping more⟩

end Notation

namespace Pattern

open Notation (Aside overlapping rangesOf supplementary)

theorem span_overlapping {more : Nat} (full : 2 ^ 12 ∣ more + 1) :
    CharSet.span (rangesOf (supplementary :: List.replicate more supplementary)) = 0 := by
  have widths : ((rangesOf (List.replicate (more + 1) supplementary)).map CharRange.width).sum =
      (more + 1) * 2 ^ 20 := by
    generalize more + 1 = count
    induction count with
    | zero => rfl
    | succ count ih =>
        simp only [rangesOf] at ih
        simp only [rangesOf, List.replicate_succ, List.flatMap_cons, List.map_append,
          List.sum_append, ih, Nat.succ_mul]
        rw [Nat.add_comm]
        rfl
  rcases full with ⟨times, more_eq⟩
  rw [CharSet.span, ← List.replicate_succ, widths, more_eq]
  exact Nat.mod_eq_zero_of_dvd ⟨times, by omega⟩

variable {σ : Type} [WordSource σ]

/-- The expression has matches, but the count of the code points is back at zero. -/
theorem yields_matching_overlapping {more : Nat} (full : 2 ^ 12 ∣ more + 1) :
    (matching (String.ofList (overlapping more).text) : Draw σ (Option String)).Yields
      (· = none) := by
  have nothing : (CharSet.sample ⟨rangesOf (supplementary :: List.replicate more supplementary),
      false⟩ : Draw σ (Option Char)) = pure none := by
    simp [CharSet.sample, span_overlapping full]
  have emitted : ∀ index done, (emitBranch (overlapping more).patterns index done :
      Draw σ (Option (List Char))).Yields (· = none) := by
    intro index done
    rcases index with _ | index
    · simp only [overlapping, Notation.Branches.patterns, Notation.Sequence.patterns,
        Notation.repeatedPattern, Notation.Atom.pattern, emitBranch, emitAll, andThen, emit,
        nothing]
      exact Draw.yields_pure rfl
    · exact Draw.yields_pure rfl
  have drawn : (text? (.choice (overlapping more).patterns) : Draw σ (Option (List Char))).Yields
      (· = none) := by
    rw [text?, emit]
    have chosen := (Draw.yields_trivial (Draw.below .bits64 (overlapping more).patterns.length :
      Draw σ Nat)).bind fun index _ => emitted index []
    exact chosen.map fun result result_eq => by rw [result_eq, Option.map_none]
  have read : read? (overlapping more).text = some (.choice (overlapping more).patterns) :=
    Notation.Branches.read?_text ⟨trivial, by simp, trivial⟩
  simp only [matching, String.toList_ofList, Notation.compile?_overlapping, read, candidateLimit,
    attempt]
  refine (drawn.bind fun result result_eq => ?_).map (p := (· = none)) fun result result_eq => by
    rw [result_eq, Option.map_none]
  rw [result_eq]
  exact Draw.yields_pure rfl

/-- A class without a text: the expression compiles, and no range crosses the surrogates. -/
theorem no_text_of_overlapping : (Regex.compile? (overlapping 4095).text).isSome ∧
    (∀ range ∈ rangesOf (supplementary :: List.replicate 4095 supplementary), Aside range) ∧
    (matching (String.ofList (overlapping 4095).text) : Draw ScriptedWords (Option String)).Yields
      (· = none) := by
  refine ⟨by rw [Notation.compile?_overlapping]; rfl, fun range range_mem => ?_,
    yields_matching_overlapping ⟨1, rfl⟩⟩
  rcases List.mem_flatMap.mp range_mem with ⟨item, item_mem, range_mem⟩
  rw [← List.replicate_succ] at item_mem
  rw [List.eq_of_mem_replicate item_mem] at range_mem
  rw [List.mem_singleton.mp range_mem]
  decide

end Pattern

end ApiStub
