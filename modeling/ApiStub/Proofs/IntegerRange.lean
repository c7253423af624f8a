import ApiStub.Proofs.AnsweredDraws
import ApiStub.Proofs.Conformance
import ApiStub.Proofs.ExactValues

/-!
# Integers between bounds of any kind

A bound may be absent, NaN, infinite or any other float. Each is an extended real number, and the
integers that are drawn are those of 64 bits between the two numbers. The ends of the range are the
ceiling of the one and the floor of the other, brought to 64 bits; that loses nothing as long as
some integer of 64 bits lies between the bounds. Where none does, either the ends have crossed, and
the minimum is rounded, or both have been brought to one end of the 64 bits.
-/

namespace ApiStub

namespace Draw

variable {σ : Type} [WordSource σ]

theorem answerable_intBetween {least greatest : Int} (ordered : least ≤ greatest) :
    (intBetween least greatest : Draw (Watched σ) Int).Answerable := by
  simp only [intBetween]
  split
  · apply Answerable.map
    exact answerable_word .bits64
  · apply Answerable.map
    exact answerable_below .bits64 (by omega)

end Draw

namespace Mock

open Api (ValueBounds)

/-! ## Numbers brought to 64 bits -/

/-- A number brought to an integer of 64 bits by a rounding; an infinity goes to its end of the
range. -/
noncomputable def wordOf (rounding : ℝ → Int) (a : EReal) : Int :=
  if a = ⊥ then leastInt else if a = ⊤ then greatestInt else saturate (rounding a.toReal)

section Words

variable {rounding : ℝ → Int} {a : EReal} {n : Int}

@[simp]
theorem wordOf_bot : wordOf rounding ⊥ = leastInt := if_pos rfl

@[simp]
theorem wordOf_top : wordOf rounding ⊤ = greatestInt := by
  rw [wordOf, if_neg top_ne_bot, if_pos rfl]

@[simp]
theorem wordOf_coe (r : ℝ) : wordOf rounding (r : EReal) = saturate (rounding r) := by
  rw [wordOf, if_neg (EReal.coe_ne_bot r), if_neg (EReal.coe_ne_top r), EReal.toReal_coe]

/-- The rounding answers an integer next to the number. -/
def Neighbouring (rounding : ℝ → Int) : Prop := ∀ r, ⌊r⌋ ≤ rounding r ∧ rounding r ≤ ⌈r⌉

theorem neighbouring_floor : Neighbouring (⌊·⌋) := fun r => ⟨le_rfl, Int.floor_le_ceil r⟩

theorem neighbouring_ceil : Neighbouring (⌈·⌉) := fun r => ⟨Int.floor_le_ceil r, le_rfl⟩

theorem neighbouring_roundAway : Neighbouring roundAway :=
  fun r => ⟨floor_le_roundAway r, roundAway_le_ceil r⟩

theorem wordOf_of_greatestInt_lt (neighbouring : Neighbouring rounding)
    (above : ((greatestInt : ℝ) : EReal) < a) : wordOf rounding a = greatestInt := by
  induction a with
  | bot => simp at above
  | top => exact wordOf_top
  | coe r =>
      have floor := Int.le_floor.mpr (EReal.coe_lt_coe_iff.mp above).le
      have next := (neighbouring r).1
      rw [wordOf_coe, saturate]
      simp only [leastInt, greatestInt] at *
      omega

theorem wordOf_of_le_leastInt (neighbouring : Neighbouring rounding)
    (below : a ≤ ((leastInt : ℝ) : EReal)) : wordOf rounding a = leastInt := by
  induction a with
  | bot => exact wordOf_bot
  | top => simp at below
  | coe r =>
      have ceil := Int.ceil_le.mpr (EReal.coe_le_coe_iff.mp below)
      have next := (neighbouring r).2
      rw [wordOf_coe, saturate]
      simp only [leastInt, greatestInt] at *
      omega

theorem wordOf_ceil_le_iff (least : leastInt ≤ n) (fits : a ≤ ((greatestInt : ℝ) : EReal)) :
    wordOf (⌈·⌉) a ≤ n ↔ a ≤ ((n : ℝ) : EReal) := by
  induction a with
  | bot => simp [least]
  | top => simp at fits
  | coe r =>
      have ceil := Int.ceil_le.mpr (EReal.coe_le_coe_iff.mp fits)
      rw [wordOf_coe, EReal.coe_le_coe_iff, ← Int.ceil_le, saturate]
      omega

theorem le_wordOf_floor_iff (greatest : n ≤ greatestInt) (fits : ((leastInt : ℝ) : EReal) ≤ a) :
    n ≤ wordOf (⌊·⌋) a ↔ ((n : ℝ) : EReal) ≤ a := by
  induction a with
  | bot => simp at fits
  | top => simp [greatest]
  | coe r =>
      have floor := Int.le_floor.mpr (EReal.coe_le_coe_iff.mp fits)
      rw [wordOf_coe, EReal.coe_le_coe_iff, ← Int.le_floor, saturate]
      omega

end Words

/-! ## Bounds as numbers -/

/-- The number that a minimum sets; every number is allowed without one, or with NaN. -/
noncomputable def leastAllowed (bounds : ValueBounds) : EReal :=
  (bounds.minimum.bind exactValue?).getD ⊥

/-- The number that a maximum sets; every number is allowed without one, or with NaN. -/
noncomputable def greatestAllowed (bounds : ValueBounds) : EReal :=
  (bounds.maximum.bind exactValue?).getD ⊤

/-- An integer of 64 bits between the bounds. -/
structure Admits (bounds : ValueBounds) (n : Int) : Prop where
  least : leastInt ≤ n
  greatest : n ≤ greatestInt
  above : leastAllowed bounds ≤ ((n : ℝ) : EReal)
  below : ((n : ℝ) : EReal) ≤ greatestAllowed bounds

theorem toInt64_eq_wordOf {rounding : Binary64 → Int} {real : ℝ → Int}
    (agree : ∀ value : Binary64, rounding value = real value.toReal) {x : Float} {a : EReal}
    (valued : exactValue? x = some a) : toInt64 rounding x = wordOf real a := by
  rw [toInt64]
  cases read : Binary64.ofFloat? x with
  | some value =>
      rw [exactValue?_of_ofFloat? read] at valued
      cases valued
      rw [wordOf_coe, ← agree]
  | none =>
      have number : x.isNaN = false := by
        rw [← Bool.not_eq_true, isNaN_iff, valued]
        simp
      have zero : exactValue? 0.0 = some (0 : ℝ) := rfl
      have sign : x < 0.0 ↔ a < ((0 : ℝ) : EReal) := by
        rw [float_lt_iff, valued, zero]
        simp
      simp only [number, sign]
      rcases exactValue?_of_ofFloat?_eq_none read with missing | infinite | infinite
      · simp [missing] at valued
      · rw [infinite] at valued
        cases valued
        rw [if_neg (by simp), if_neg (by simp), wordOf_top]
      · rw [infinite] at valued
        cases valued
        rw [if_neg (by simp), if_pos (by simp), wordOf_bot]

theorem realBound_eq_none {bound : Option Float} (unset : bound.bind exactValue? = none) :
    realBound bound = none := by
  cases bound with
  | none => rfl
  | some x =>
      rw [realBound, Option.filter_some, isNaN_iff.mpr unset]
      rfl

theorem realBound_eq_some {x : Float} {a : EReal} (valued : exactValue? x = some a) :
    realBound (some x) = some x := by
  have number : x.isNaN = false := by
    rw [← Bool.not_eq_true, isNaN_iff, valued]
    simp
  rw [realBound, Option.filter_some, number]
  rfl

section Bounds

variable (bounds : ValueBounds)

theorem lowerInteger_eq_wordOf : lowerInteger bounds = wordOf (⌈·⌉) (leastAllowed bounds) := by
  rw [lowerInteger, leastAllowed]
  cases set : bounds.minimum.bind exactValue? with
  | none =>
      rw [realBound_eq_none set]
      exact wordOf_bot.symm
  | some a =>
      rcases Option.bind_eq_some_iff.mp set with ⟨x, declared, valued⟩
      rw [declared, realBound_eq_some valued]
      exact toInt64_eq_wordOf (fun _ => Binary64.ceil_eq) valued

theorem upperInteger_eq_wordOf : upperInteger bounds = wordOf (⌊·⌋) (greatestAllowed bounds) := by
  rw [upperInteger, greatestAllowed]
  cases set : bounds.maximum.bind exactValue? with
  | none =>
      rw [realBound_eq_none set]
      exact wordOf_top.symm
  | some a =>
      rcases Option.bind_eq_some_iff.mp set with ⟨x, declared, valued⟩
      rw [declared, realBound_eq_some valued]
      exact toInt64_eq_wordOf (fun _ => Binary64.floor_eq) valued

variable {bounds}

/-- The range is that of the integers between the bounds, as soon as neither bound passes it by. -/
theorem mem_range_iff (low : leastAllowed bounds ≤ ((greatestInt : ℝ) : EReal))
    (high : ((leastInt : ℝ) : EReal) ≤ greatestAllowed bounds) (n : Int) :
    lowerInteger bounds ≤ n ∧ n ≤ upperInteger bounds ↔ Admits bounds n := by
  have lower := lowerInteger_mem bounds
  have upper := upperInteger_mem bounds
  constructor
  · rintro ⟨above, below⟩
    have least := lower.1.trans above
    have greatest := below.trans upper.2
    rw [lowerInteger_eq_wordOf, wordOf_ceil_le_iff least low] at above
    rw [upperInteger_eq_wordOf, le_wordOf_floor_iff greatest high] at below
    exact ⟨least, greatest, above, below⟩
  · rintro ⟨least, greatest, above, below⟩
    rw [lowerInteger_eq_wordOf, wordOf_ceil_le_iff least low, upperInteger_eq_wordOf,
      le_wordOf_floor_iff greatest high]
    exact ⟨above, below⟩

theorem Admits.mem_range_iff {n : Int} (admits : Admits bounds n) (m : Int) :
    lowerInteger bounds ≤ m ∧ m ≤ upperInteger bounds ↔ Admits bounds m := by
  apply Mock.mem_range_iff
  · exact admits.above.trans (EReal.coe_le_coe_iff.mpr (Int.cast_le.mpr admits.greatest))
  · exact (EReal.coe_le_coe_iff.mpr (Int.cast_le.mpr admits.least)).trans admits.below

/-- Where no integer lies between the bounds and yet the range has a member, it is the minimum
rounded: all of it has been brought to one end. -/
theorem eq_wordOf_of_mem_range (nothing : ¬∃ n, Admits bounds n) {n : Int}
    (above : lowerInteger bounds ≤ n) (below : n ≤ upperInteger bounds) :
    n = wordOf roundAway (leastAllowed bounds) := by
  have lower := lowerInteger_mem bounds
  have upper := upperInteger_mem bounds
  rcases lt_or_ge ((greatestInt : ℝ) : EReal) (leastAllowed bounds) with beyond | low
  · have word := wordOf_of_greatestInt_lt neighbouring_ceil beyond
    rw [wordOf_of_greatestInt_lt neighbouring_roundAway beyond]
    rw [lowerInteger_eq_wordOf, word] at above
    omega
  · rcases lt_or_ge (greatestAllowed bounds) ((leastInt : ℝ) : EReal) with short | high
    · have word := wordOf_of_le_leastInt neighbouring_floor short.le
      rw [upperInteger_eq_wordOf, word] at below
      have bottom : lowerInteger bounds ≤ leastInt := by omega
      rw [lowerInteger_eq_wordOf, wordOf_ceil_le_iff le_rfl low] at bottom
      rw [wordOf_of_le_leastInt neighbouring_roundAway bottom]
      omega
    · exact absurd ⟨n, (mem_range_iff low high n).mp ⟨above, below⟩⟩ nothing

theorem minimum_of_crossed (crossed : upperInteger bounds < lowerInteger bounds) :
    ∃ x a, bounds.minimum = some x ∧ exactValue? x = some a ∧ leastAllowed bounds = a := by
  cases set : bounds.minimum.bind exactValue? with
  | none =>
      have upper := upperInteger_mem bounds
      rw [lowerInteger_eq_wordOf, leastAllowed, set, Option.getD_none, wordOf_bot] at crossed
      omega
  | some a =>
      rcases Option.bind_eq_some_iff.mp set with ⟨x, declared, valued⟩
      exact ⟨x, a, declared, valued, by rw [leastAllowed, set, Option.getD_some]⟩

end Bounds

/-! ## What is drawn -/

section Drawing

variable {σ : Type} [WordSource σ] (bounds : ValueBounds)

theorem answerable_integer : (integer bounds : Draw (Watched σ) Int).Answerable := by
  simp only [integer]
  split
  · exact Draw.answerable_pure _
  · rename_i ordered
    exact Draw.answerable_intBetween (not_lt.mp ordered)

theorem integer_eq_intBetween {bounds : ValueBounds}
    (ordered : lowerInteger bounds ≤ upperInteger bounds) :
    (integer bounds : Draw σ Int) =
      Draw.intBetween (lowerInteger bounds) (upperInteger bounds) := by
  simp only [integer]
  rw [if_neg (not_lt.mpr ordered)]

/-- Without an integer between the bounds the minimum is rounded. -/
theorem yields_integer_of_none {bounds : ValueBounds} (nothing : ¬∃ n, Admits bounds n) :
    (integer bounds : Draw σ Int).Yields (· = wordOf roundAway (leastAllowed bounds)) := by
  rcases lt_or_ge (upperInteger bounds) (lowerInteger bounds) with crossed | ordered
  · rcases minimum_of_crossed crossed with ⟨x, a, declared, valued, least⟩
    simp only [integer]
    rw [if_pos crossed, declared, Option.map_some, Option.getD_some, least,
      toInt64_eq_wordOf (fun _ => Binary64.round_eq) valued]
    exact Draw.yields_pure rfl
  · refine (yields_integer bounds).imp fun value facts => ?_
    rcases facts.2 ordered with ⟨above, below⟩
    exact eq_wordOf_of_mem_range nothing above below

/-- Whatever the bounds are, no number is asked for from an empty range and an integer of 64 bits is
drawn. When some integer of 64 bits lies between the bounds, the range drawn from is the set of
those that do; otherwise the minimum is rounded, a half away from zero, and brought to 64 bits. -/
theorem integer_within_bounds :
    (integer bounds : Draw (Watched σ) Int).Answerable ∧
    ((integer bounds : Draw σ Int).Yields fun value => leastInt ≤ value ∧ value ≤ greatestInt) ∧
    ((∃ n, Admits bounds n) →
      (∃ least greatest, least ≤ greatest ∧
        (integer bounds : Draw σ Int) = Draw.intBetween least greatest ∧
        ∀ n, least ≤ n ∧ n ≤ greatest ↔ Admits bounds n) ∧
      (integer bounds : Draw σ Int).Yields (Admits bounds)) ∧
    ((¬∃ n, Admits bounds n) →
      (integer bounds : Draw σ Int).Yields (· = wordOf roundAway (leastAllowed bounds))) := by
  refine ⟨answerable_integer bounds, (yields_integer bounds).imp fun value facts => facts.1, ?_,
    yields_integer_of_none⟩
  rintro ⟨n, admits⟩
  have range := admits.mem_range_iff
  rcases (range n).mpr admits with ⟨above, below⟩
  have ordered := above.trans below
  refine ⟨⟨_, _, ordered, integer_eq_intBetween ordered, range⟩, ?_⟩
  refine (yields_integer bounds).imp fun value facts => ?_
  exact (range value).mp (facts.2 ordered)

end Drawing

end Mock

end ApiStub
