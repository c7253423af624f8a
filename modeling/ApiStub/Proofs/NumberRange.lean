import ApiStub.Json.Writer
import ApiStub.Mock.Number
import ApiStub.Proofs.Draws
import ApiStub.Proofs.FloatBounds

/-!
# Numbers between bounds of any kind

A number is a weighted mean of the ends of an interval, rounded to some decimal places. The weights
are fractions, so that the mean is not NaN, whatever the ends are; an infinite one is brought back
to an end. After that each way through the rounding answers either what it was given or what it has
found to lie in the interval.
-/

namespace ApiStub

theorem fraction_iff {t : Float} : 0.0 ≤ t ∧ t < 1.0 ↔
    ∃ s : ℝ, 0 ≤ s ∧ s < 1 ∧ exactValue? t = some (s : EReal) := by
  have zero : exactValue? 0.0 = some ((0 : ℝ) : EReal) := rfl
  cases valued : exactValue? t with
  | none => simp [float_le_iff, valued]
  | some a =>
      simp only [float_le_iff, float_lt_iff, zero, exactValue?_one, valued]
      induction a with
      | bot => simp
      | top => simp
      | coe s => simp [-EReal.coe_one]

/-! ## Texts of finite numbers -/

/-- The text begins with a digit. -/
def BeginsWithDigit (text : List Char) : Prop := ∃ c rest, text = c :: rest ∧ c.isDigit = true

namespace Layout

theorem beginsWithDigit_place (layout : Layout) {digits : List Char}
    (begins : BeginsWithDigit digits) (point : Int) :
    BeginsWithDigit (layout.place digits point) := by
  rcases begins with ⟨c, rest, rfl, digit⟩
  rcases point with (_ | n) | n
  · exact ⟨'0', _, rfl, rfl⟩
  · rw [place]
    · split
      · exact ⟨c, _, rfl, digit⟩
      · exact ⟨c, _, rfl, digit⟩
    · simp
  · exact ⟨'0', _, rfl, rfl⟩

theorem beginsWithDigit_exponential {digits : List Char} (begins : BeginsWithDigit digits)
    (exponent : Int) : BeginsWithDigit (exponential digits exponent) := by
  rcases begins with ⟨c, _ | ⟨second, rest⟩, rfl, digit⟩
  · exact ⟨c, _, rfl, digit⟩
  · exact ⟨c, _, rfl, digit⟩

end Layout

theorem beginsWithDigit_toDigits (n : Nat) : BeginsWithDigit (Nat.toDigits 10 n) := by
  rcases List.exists_cons_of_ne_nil (Nat.toDigits_ne_nil : Nat.toDigits 10 n ≠ []) with
    ⟨c, rest, same⟩
  refine ⟨c, rest, same, ?_⟩
  apply Nat.isDigit_of_mem_toDigits (by decide) (Nat.le_refl 10)
  rw [same]
  exact List.mem_cons_self

theorem ofList_ne_null {text : List Char} (begins : BeginsWithDigit text) (negative : Bool) :
    String.ofList (if negative then '-' :: text else text) ≠ "null" := by
  rcases begins with ⟨c, rest, rfl, digit⟩
  intro spelled
  have letters := congrArg String.toList spelled
  rw [String.toList_ofList] at letters
  cases negative with
  | true => simp at letters
  | false =>
      rcases List.cons.inj letters with ⟨rfl, -⟩
      exact absurd digit (by decide)

/-- A finite float is written with a digit first, or after a sign. -/
theorem write_float_ne_null {x : Float} (finite : x.isFinite = true) :
    (Json.float x).write ≠ Json.null.write := by
  rcases isFinite_iff.mp finite with ⟨r, valued⟩
  simp only [Json.write, Json.writeFloat, finite, if_true, Layout.write]
  cases read : Binary64.ofFloat? x with
  | none =>
      rcases exactValue?_of_ofFloat?_eq_none read with missing | infinite | infinite
      · simp [missing] at valued
      · simp [infinite] at valued
      · simp [infinite] at valued
  | some value =>
      apply ofList_ne_null
      have digits := beginsWithDigit_toDigits (Decimal.shortest value).digits
      split
      · exact Layout.beginsWithDigit_place _ digits _
      · exact Layout.beginsWithDigit_exponential digits _

namespace Draw

variable {σ : Type} [WordSource σ]

theorem yields_fraction : (fraction : Draw σ Float).Yields fun t => 0.0 ≤ t ∧ t < 1.0 := by
  refine (yields_word .bits64).map fun word word_lt => ?_
  rw [Width.words_bits64] at word_lt
  exact fraction_iff.mpr (exactValue?_div (by omega))

end Draw

namespace Mock

open Api (ValueBounds)

/-! ## Intervals -/

section Intervals

variable {lower upper x : Float} {a b : EReal}

theorem within_iff (low : exactValue? lower = some a) (high : exactValue? upper = some b) :
    within lower upper x = true ↔ ∃ c, exactValue? x = some c ∧ a ≤ c ∧ c ≤ b := by
  simp only [within, Bool.and_eq_true, decide_eq_true_eq, float_le_iff, low, high]
  constructor
  · rintro ⟨⟨_, c, ⟨⟩, valued, above⟩, _, _, again, ⟨⟩, below⟩
    rw [valued] at again
    cases again
    exact ⟨c, valued, above, below⟩
  · rintro ⟨c, valued, above, below⟩
    exact ⟨⟨_, _, rfl, valued, above⟩, _, _, valued, rfl, below⟩

/-- Anything but NaN is brought into an interval. -/
theorem within_limit (low : exactValue? lower = some a) (high : exactValue? upper = some b)
    (ordered : a ≤ b) {c : EReal} (valued : exactValue? x = some c) :
    within lower upper (limit lower upper x) = true := by
  have below : ∀ {y : Float} {d : EReal}, exactValue? y = some d → (upper < y ↔ b < d) := by
    intro y d known
    simp [float_lt_iff, high, known]
  have above : x < lower ↔ c < a := by simp [float_lt_iff, low, valued]
  rw [within_iff low high, limit]
  by_cases less : c < a
  · have kept : ¬upper < lower := by simpa [below low] using ordered
    simp only [above.mpr less, if_true, gt_iff_lt, kept, if_false]
    exact ⟨a, low, le_rfl, ordered⟩
  · simp only [mt above.mp less, if_false, gt_iff_lt, below valued]
    split
    · exact ⟨b, high, ordered, le_rfl⟩
    · rename_i fits
      exact ⟨c, valued, not_lt.mp less, not_lt.mp fits⟩

theorem within_ite {candidate fallback : Float} (inside : within lower upper fallback = true) :
    within lower upper (if within lower upper candidate then candidate else fallback) = true := by
  split
  · assumption
  · exact inside

/-- Rounding answers what it was given, or one of two candidates that lies in the interval. -/
theorem within_roundInto {value : Float} (inside : within lower upper value = true)
    (precision : Nat) : within lower upper (roundInto value lower upper precision) = true := by
  simp only [roundInto]
  split
  · exact inside
  · exact within_ite (within_ite inside)

end Intervals

/-! ## The ends of the interval -/

/-- The greatest number that a float can be: all bits of the mantissa, at the greatest exponent. -/
noncomputable def greatestReal : ℝ := UnpackedFloat.magnitude (2 ^ 53 - 1) 971

/-- The number that a bound sets, when it is finite. -/
noncomputable def finiteValue? (bound : Option Float) : Option ℝ :=
  ((bound.filter Float.isFinite).bind exactValue?).map EReal.toReal

/-- The finite minimum, or the least number that a float can be. -/
noncomputable def leastNumber (bounds : ValueBounds) : ℝ :=
  (finiteValue? bounds.minimum).getD (-greatestReal)

/-- The finite maximum, or the greatest number that a float can be, and not less than the minimum. -/
noncomputable def greatestNumber (bounds : ValueBounds) : ℝ :=
  max ((finiteValue? bounds.maximum).getD greatestReal) (leastNumber bounds)

theorem exactValue?_of_toBits {x : Float} {bits : UInt64} (same : x.toBits = bits) :
    exactValue? x = UnpackedFloat.value?
      (Float.Model.UnpackedFloat.unpack Float.Model.Format.binary64 bits.toBitVec) := by
  rw [← same]
  rfl

theorem exactValue?_greatestFloat : exactValue? greatestFloat = some (greatestReal : EReal) := by
  have bits : greatestFloat.toBits = 0x7FEFFFFFFFFFFFFF := by decide +kernel
  rw [exactValue?_of_toBits bits]
  rfl

theorem exactValue?_neg_greatestFloat :
    exactValue? (-greatestFloat) = some ((-greatestReal : ℝ) : EReal) := by
  have bits : (-greatestFloat).toBits = 0xFFEFFFFFFFFFFFFF := by decide +kernel
  rw [exactValue?_of_toBits bits]
  rfl

section Ends

variable (bounds : ValueBounds)

/-- A bound that is finite gives its number, and any other one the number that stands in for it. -/
theorem exactValue?_finiteOr {bound : Option Float} {fallback : Float} {r : ℝ}
    (valued : exactValue? fallback = some (r : EReal)) :
    exactValue? ((bound.filter Float.isFinite).getD fallback) =
      some (((finiteValue? bound).getD r : ℝ) : EReal) := by
  rw [finiteValue?]
  cases kept : bound.filter Float.isFinite with
  | none => exact valued
  | some x =>
      rcases isFinite_iff.mp (Option.filter_eq_some_iff.mp kept).2 with ⟨s, known⟩
      simp [known]

theorem exactValue?_lowerNumber :
    exactValue? (lowerNumber bounds) = some (leastNumber bounds : EReal) :=
  exactValue?_finiteOr exactValue?_neg_greatestFloat

theorem exactValue?_upperNumber :
    exactValue? (upperNumber bounds) = some (greatestNumber bounds : EReal) := by
  have low := exactValue?_lowerNumber bounds
  have high := @exactValue?_finiteOr bounds.maximum _ _ exactValue?_greatestFloat
  have ordered : lowerNumber bounds < (bounds.maximum.filter Float.isFinite).getD greatestFloat ↔
      leastNumber bounds < (finiteValue? bounds.maximum).getD greatestReal := by
    simp [float_lt_iff, low, high]
  simp only [upperNumber, greatestNumber, ordered]
  split
  · rename_i less
    rw [high, max_eq_left less.le]
  · rename_i crossed
    rw [low, max_eq_right (not_lt.mp crossed)]

theorem leastNumber_le_greatestNumber : leastNumber bounds ≤ greatestNumber bounds :=
  le_max_right _ _

end Ends

/-! ## What is drawn -/

/-- The number that is made of a fraction. -/
def numberAt (bounds : ValueBounds) (precision : Nat) (t : Float) : Float :=
  let lower := lowerNumber bounds
  let upper := upperNumber bounds
  roundInto (limit lower upper (lower * (1.0 - t) + upper * t)) lower upper precision

/-- A finite float between the ends, so that it lies between two bounds that are finite and in
order, and is not written as `null`. -/
structure Between (bounds : ValueBounds) (x : Float) : Prop where
  finite : x.isFinite = true
  ends : ∃ r : ℝ, exactValue? x = some (r : EReal) ∧
    leastNumber bounds ≤ r ∧ r ≤ greatestNumber bounds
  declared : ∀ lower upper, bounds.minimum = some lower → bounds.maximum = some upper →
    lower.isFinite = true → upper.isFinite = true → lower ≤ upper → lower ≤ x ∧ x ≤ upper
  written : (Json.float x).write ≠ Json.null.write

theorem finiteValue?_of_finite {x : Float} {r : ℝ} (finite : x.isFinite = true)
    (valued : exactValue? x = some (r : EReal)) : finiteValue? (some x) = some r := by
  simp [finiteValue?, Option.filter_some, finite, valued]

theorem between_of_within {bounds : ValueBounds} {x : Float}
    (inside : within (lowerNumber bounds) (upperNumber bounds) x = true) : Between bounds x := by
  rcases (within_iff (exactValue?_lowerNumber bounds) (exactValue?_upperNumber bounds)).mp inside
    with ⟨c, valued, above, below⟩
  -- Between two numbers there is no infinity.
  induction c with
  | bot => simp at above
  | top => simp at below
  | coe r =>
      rw [EReal.coe_le_coe_iff] at above below
      have finite : x.isFinite = true := isFinite_iff.mpr ⟨r, valued⟩
      refine ⟨finite, ⟨r, valued, above, below⟩, ?_, ?_⟩
      · intro lower upper minimum maximum lowerFinite upperFinite ordered
        rcases isFinite_iff.mp lowerFinite with ⟨least, low⟩
        rcases isFinite_iff.mp upperFinite with ⟨greatest, high⟩
        have inOrder : least ≤ greatest := by simpa [float_le_iff, low, high] using ordered
        rw [leastNumber, minimum, finiteValue?_of_finite lowerFinite low] at above
        rw [greatestNumber, leastNumber, minimum, maximum, finiteValue?_of_finite lowerFinite low,
          finiteValue?_of_finite upperFinite high] at below
        simp only [Option.getD_some, max_eq_left inOrder] at above below
        simp only [float_le_iff, low, high, valued]
        exact ⟨⟨_, _, rfl, rfl, EReal.coe_le_coe_iff.mpr above⟩,
          ⟨_, _, rfl, rfl, EReal.coe_le_coe_iff.mpr below⟩⟩
      · exact write_float_ne_null finite

theorem between_numberAt (bounds : ValueBounds) (precision : Nat) {t : Float}
    (fraction : 0.0 ≤ t ∧ t < 1.0) : Between bounds (numberAt bounds precision t) := by
  have low := exactValue?_lowerNumber bounds
  have high := exactValue?_upperNumber bounds
  rcases fraction_iff.mp fraction with ⟨s, least, greatest, valued⟩
  rcases exactValue?_one_sub valued least greatest.le with ⟨rest, restLeast, restGreatest, remains⟩
  rcases exactValue?_mul low remains restLeast restGreatest with ⟨p, first⟩
  rcases exactValue?_mul high valued least greatest.le with ⟨q, second⟩
  rcases exactValue?_add first second with ⟨mean, known⟩
  have ordered := EReal.coe_le_coe_iff.mpr (leastNumber_le_greatestNumber bounds)
  exact between_of_within (within_roundInto (within_limit low high ordered known) precision)

theorem number_eq {σ : Type} [WordSource σ] (bounds : ValueBounds) (precision : Nat) :
    (number bounds precision : Draw σ Float) = numberAt bounds precision <$> Draw.fraction := rfl

/-- Whatever the bounds are, the number that is made of a fraction below one is a finite float
between them, and so is every number that is drawn. -/
theorem number_within_bounds {σ : Type} [WordSource σ] (bounds : ValueBounds) (precision : Nat) :
    (∀ t : Float, 0.0 ≤ t → t < 1.0 → Between bounds (numberAt bounds precision t)) ∧
    (number bounds precision : Draw σ Float) = numberAt bounds precision <$> Draw.fraction ∧
    ((Draw.fraction : Draw σ Float).Yields fun t => 0.0 ≤ t ∧ t < 1.0) ∧
    (number bounds precision : Draw σ Float).Yields (Between bounds) := by
  refine ⟨?_, number_eq bounds precision, Draw.yields_fraction, ?_⟩
  · intro t above below
    exact between_numberAt bounds precision ⟨above, below⟩
  · exact Draw.yields_fraction.map fun t fraction => between_numberAt bounds precision fraction

end Mock

end ApiStub
