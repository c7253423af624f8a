import ApiStub.Proofs.ExactValues
import ApiStub.Proofs.NearestFloat

/-!
# Rounded results and their bounds

Every operation rounds an exact result to a mantissa of at most 53 bits, or of fewer at the least
exponent. What comes out is reduced, keeps its sign and never passes a number that is itself of such
a form. So a finite float times a number up to one stays finite, and one less a number up to one
stays between zero and one. Only an exponent past the greatest one can turn what comes out into an
infinity, and nothing into NaN.
-/

namespace ApiStub

open Float.Model (Format UnpackedFloat)
open Float.Model.UnpackedFloat (Sign roundWithAccuracy shiftToTargetExponent decreaseExponent)

namespace UnpackedFloat

/-! ## Rounding -/

/-- What comes of a number with a sign: a zero, or a reduced form. -/
inductive Rounded (sign : Sign) (r : ℝ) : UnpackedFloat → Prop
  | zero (vanished : r = 0) : Rounded sign r (.zero sign)
  | finite {mantissa : Nat} {exponent : Int} {positive : 0 < mantissa}
      (reduced : Reduced mantissa exponent) (value : magnitude mantissa exponent = r) :
      Rounded sign r (.finite sign mantissa exponent positive)

/-- What a number with a sign is rounded to: its magnitude does not pass one that needs no more than
53 bits. -/
def RoundsTo (sign : Sign) (s : ℝ) (x : UnpackedFloat) : Prop :=
  ∃ r, Rounded sign r x ∧ ∀ m e, m ≤ 2 ^ 53 → -1074 ≤ e → s ≤ magnitude m e → r ≤ magnitude m e

/-- The exponent that a number is rounded at. -/
def target (n : Nat) (exponent : Int) : Int := max (exponent + n.log2 - 52) (-1074)

section Rounding

variable (sign : Sign) {n : Nat} {exponent : Int}

theorem targetExponent_eq_target (n : Nat) (exponent : Int) :
    Format.binary64.targetExponent (Float.Model.totalExponent n exponent) = target n exponent := by
  simp [Format.targetExponent, Float.Model.totalExponent, Format.mantissaBits, Format.minExponent,
    target]
  omega

theorem shiftToTargetExponent_eq (n : Nat) (exponent : Int) :
    shiftToTargetExponent Format.binary64 n exponent .exact =
      (shiftOut n (target n exponent - exponent).toNat,
        exponent + (target n exponent - exponent).toNat) := by
  simp only [shiftToTargetExponent, UnpackedFloat.shiftToExponent, targetExponent_eq_target,
    shiftRight_exact]

theorem roundWithAccuracy_eq_settled (n : Nat) (exponent : Int) :
    roundWithAccuracy Format.binary64 sign n exponent .exact =
      settled sign (roundedShift n (target n exponent - exponent).toNat)
        (exponent + (target n exponent - exponent).toNat) := by
  rw [roundWithAccuracy, shiftToTargetExponent_eq, ← roundedMantissa_shiftOut]
  rfl

theorem settled_of_short {mantissa : Nat} (short : mantissa < 2 ^ 53) (least : -1074 ≤ exponent) :
    settled sign mantissa exponent =
      if zero : mantissa = 0 then .zero sign
      else .finite sign mantissa exponent (Nat.pos_of_ne_zero zero) := by
  have length : mantissa.log2 ≤ 52 := by
    rcases Nat.eq_zero_or_pos mantissa with rfl | positive
    · simp
    · have bound := (Nat.log2_lt positive.ne').mpr short
      omega
  have still : (target mantissa exponent - exponent).toNat = 0 := by
    rw [target]
    omega
  rw [settled, shiftToTargetExponent_eq, still]
  simp [shiftOut, Nat.mod_one]

/-- A mantissa in front of its exponent, settled, is what it was. -/
theorem rounded_settled {mantissa : Nat} (fits : mantissa ≤ 2 ^ 53) (least : -1074 ≤ exponent)
    (full : exponent = -1074 ∨ 2 ^ 52 ≤ mantissa) :
    Rounded sign (magnitude mantissa exponent) (settled sign mantissa exponent) := by
  rcases Nat.lt_or_eq_of_le fits with short | rfl
  · rw [settled_of_short sign short least]
    split
    · rename_i zero
      exact .zero (by simp [zero, magnitude])
    · exact .finite ⟨short, least, full⟩ rfl
  · rw [settled_of_carry sign least]
    refine .finite ⟨by decide, by omega, .inr (Nat.le_refl _)⟩ ?_
    exact (magnitude_shift (2 ^ 52) 1 exponent).symm

/-- The number has no bits to spare below the exponent it is rounded at. -/
def Ample (n : Nat) (exponent : Int) : Prop := 52 ≤ n.log2 ∨ exponent ≤ -1074

theorem Ample.le_target (ample : Ample n exponent) : exponent ≤ target n exponent := by
  rw [target]
  rcases ample with wide | low
  · omega
  · omega

theorem Ample.roundedShift_bounds (ample : Ample n exponent) :
    roundedShift n (target n exponent - exponent).toNat ≤ 2 ^ 53 ∧
      (target n exponent = -1074 ∨
        2 ^ 52 ≤ roundedShift n (target n exponent - exponent).toNat) := by
  rcases lt_or_ge (exponent + n.log2 - 52) (-1074) with low | high
  · have bottom : target n exponent = -1074 := max_eq_right low.le
    have bits : n.log2 + 1 ≤ (target n exponent - exponent).toNat + 52 := by omega
    generalize (target n exponent - exponent).toNat = shift at *
    have below : n / 2 ^ shift < 2 ^ 52 := by
      rw [Nat.div_lt_iff_lt_mul (Nat.two_pow_pos _), ← pow_add, Nat.add_comm]
      exact Nat.lt_log2_self.trans_le (Nat.pow_le_pow_right (by decide) bits)
    have next := (ApiStub.roundedShift_bounds n shift).2
    exact ⟨by omega, .inl bottom⟩
  · have top : target n exponent = exponent + n.log2 - 52 := max_eq_left high
    have wide : 52 ≤ n.log2 := by
      rcases ample with wide | low
      · exact wide
      · omega
    have bits : (target n exponent - exponent).toNat = n.log2 - 52 := by omega
    have bounds := roundedShift_wide wide
    rw [bits]
    exact ⟨bounds.2, .inr bounds.1⟩

/-- The rounded number does not pass a number that has a form of its own. -/
theorem Ample.roundedShift_le (ample : Ample n exponent) {m : Nat} {e : Int} (fits : m ≤ 2 ^ 53)
    (least : -1074 ≤ e) (le : magnitude n exponent ≤ magnitude m e) :
    magnitude (roundedShift n (target n exponent - exponent).toNat) (target n exponent) ≤
      magnitude m e := by
  have reached := ample.le_target
  have place : target n exponent = exponent + (target n exponent - exponent).toNat := by omega
  have whole : ∀ k, magnitude (k * 2 ^ (target n exponent - exponent).toNat) exponent =
      magnitude k (target n exponent) := by
    intro k
    rw [magnitude_shift, ← place]
  have kept : ∀ k, magnitude n exponent ≤ magnitude k (target n exponent) →
      roundedShift n (target n exponent - exponent).toNat ≤ k := by
    intro k bound
    rw [← whole, magnitude_le_iff] at bound
    have mono := roundedShift_mono (target n exponent - exponent).toNat bound
    rwa [roundedShift_mul_two_pow] at mono
  rcases le_or_gt (target n exponent) e with coarse | fine
  · -- The other number is a multiple of the unit.
    have multiple : magnitude (m * 2 ^ (e - target n exponent).toNat) (target n exponent) =
        magnitude m e := by
      rw [magnitude_shift]
      congr 1
      omega
    rw [← multiple] at le ⊢
    exact magnitude_le_iff.mpr (kept _ le)
  · -- The power of two below `n` lies between the two numbers.
    have top : target n exponent = exponent + n.log2 - 52 := by
      rw [target] at *
      omega
    have nonzero : n ≠ 0 := by
      rintro rfl
      rcases ample with wide | low
      · simp at wide
      · simp [target] at fine
        omega
    have bits : 52 + (target n exponent - exponent).toNat = n.log2 := by omega
    have leading : magnitude (2 ^ 52) (target n exponent) ≤ magnitude n exponent := by
      rw [← whole, magnitude_le_iff, ← pow_add, bits]
      exact Nat.log2_self_le nonzero
    have above : magnitude m e ≤ magnitude (2 ^ 52) (target n exponent) :=
      (magnitude_le_iff.mpr fits).trans (magnitude_two_pow_le fine)
    have rounded := kept _ (le.trans above)
    exact (magnitude_le_iff.mpr rounded).trans (leading.trans le)

theorem roundsTo_roundWithAccuracy (ample : Ample n exponent) :
    RoundsTo sign (magnitude n exponent)
      (roundWithAccuracy Format.binary64 sign n exponent .exact) := by
  have reached := ample.le_target
  have place : exponent + (target n exponent - exponent).toNat = target n exponent := by omega
  have bounds := ample.roundedShift_bounds
  rw [roundWithAccuracy_eq_settled, place]
  refine ⟨_, rounded_settled sign bounds.1 (le_max_right _ _) bounds.2, ?_⟩
  intro m e fits least le
  exact ample.roundedShift_le fits least le

/-- Bits are added below a number that has too few. -/
theorem roundsTo_round (positive : 0 < n) :
    RoundsTo sign (magnitude n exponent)
      (UnpackedFloat.round Format.binary64 sign n exponent) := by
  have length := log2_mul_two_pow positive (exponent - target n exponent).toNat
  have ample : Ample (n * 2 ^ (exponent - target n exponent).toNat)
      (exponent - (exponent - target n exponent).toNat) := by
    rw [Ample, length, target]
    omega
  have same : magnitude (n * 2 ^ (exponent - target n exponent).toNat)
      (exponent - (exponent - target n exponent).toNat) = magnitude n exponent := by
    rw [magnitude_shift]
    congr 1
    omega
  have rounds := roundsTo_roundWithAccuracy sign ample
  rw [same] at rounds
  simpa only [UnpackedFloat.round, targetExponent_eq_target, decreaseExponent,
    Nat.shiftLeft_eq] using rounds

end Rounding

/-! ## Sums of scaled integers -/

theorem roundsTo_normalize (n : Nat) (exponent : Int) :
    RoundsTo .positive (magnitude n exponent)
      (UnpackedFloat.normalize Format.binary64 n exponent .positive) := by
  rcases Nat.eq_zero_or_pos n with rfl | positive
  · refine ⟨0, .zero rfl, ?_⟩
    intro m e _ _ le
    simpa [magnitude] using le
  · have above : compare (n : Int) 0 = .gt := by
      rw [Int.compare_eq_gt]
      omega
    simp only [UnpackedFloat.normalize, above]
    exact roundsTo_round .positive positive

theorem rounded_normalize (n : Int) (exponent : Int) :
    ∃ sign r, Rounded sign r (UnpackedFloat.normalize Format.binary64 n exponent .positive) := by
  rcases n.eq_nat_or_neg with ⟨k, rfl | rfl⟩
  · rcases roundsTo_normalize k exponent with ⟨r, rounded, -⟩
    exact ⟨_, r, rounded⟩
  · rcases Nat.eq_zero_or_pos k with rfl | positive
    · exact ⟨.positive, 0, .zero rfl⟩
    · have below : compare (-(k : Int)) 0 = .lt := by
        rw [Int.compare_eq_lt]
        omega
      rcases @roundsTo_round .negative k exponent positive with ⟨r, rounded, -⟩
      refine ⟨.negative, r, ?_⟩
      simp only [UnpackedFloat.normalize, below]
      simpa using rounded

/-! ## Packing -/

/-- The unpacked float is exactly this number, and packing keeps it. -/
inductive Represents (r : ℝ) : UnpackedFloat → Prop
  | zero {sign : Sign} (vanished : r = 0) : Represents r (.zero sign)
  | finite {sign : Sign} {mantissa : Nat} {exponent : Int} {positive : 0 < mantissa}
      (reduced : Reduced mantissa exponent) (greatest : exponent ≤ 971)
      (value : signed sign (magnitude mantissa exponent) = r) :
      Represents r (.finite sign mantissa exponent positive)

/-- Below the first bit of a mantissa nothing is hidden, and the exponent field is zero. -/
theorem unpack_pack_of_lt {sign : Sign} {mantissa : Nat} {positive : 0 < mantissa}
    (subnormal : mantissa < 2 ^ 52) :
    UnpackedFloat.unpack Format.binary64
        (UnpackedFloat.pack Format.binary64 (.finite sign mantissa (-1074) positive)) =
      .finite sign mantissa (-1074) positive := by
  have length : ¬mantissa.log2 + 1 = Format.binary64.mantissaBits := by
    have bound := (Nat.log2_lt positive.ne').mpr subnormal
    simp only [Format.mantissaBits]
    omega
  have whole : (BitVec.ofNat 52 mantissa).toNat = mantissa := by
    rw [BitVec.toNat_ofNat, Nat.mod_eq_of_lt subnormal]
  have nonzero : BitVec.ofNat 52 mantissa ≠ 0#52 := by
    intro zero
    rw [zero] at whole
    simp at whole
    omega
  simp only [UnpackedFloat.pack]
  rw [if_neg (by decide), if_neg length]
  simp only [UnpackedFloat.unpack, UnpackedFloat.unpackExponent_packComponents,
    UnpackedFloat.unpackMantissa_packComponents, unpackSign_packComponents, ofBitVec_toBitVec]
  rw [if_neg (by decide), if_pos trivial, dif_neg nonzero]
  simp [whole, Format.exponentBias]

theorem pack_of_lt {sign : Sign} {mantissa : Nat} {exponent : Int} (positive : 0 < mantissa)
    (beyond : 971 < exponent) :
    UnpackedFloat.pack Format.binary64 (.finite sign mantissa exponent positive) =
      UnpackedFloat.pack Format.binary64 (.infinity sign) := by
  have bias : Format.binary64.exponentBias = 1023 := rfl
  simp only [UnpackedFloat.pack, bias]
  rw [if_pos]
  omega

theorem unpack_toFloat {x : UnpackedFloat} (canonical : Canonical x) :
    (toFloat x).toModel.unpack = x := by
  cases canonical with
  | notANumber => rfl
  | infinity sign => cases sign <;> rfl
  | zero sign => cases sign <;> rfl
  | @finite sign mantissa exponent positive reduced greatest =>
      rcases Nat.lt_or_ge mantissa (2 ^ 52) with subnormal | normal
      · have bottom : exponent = -1074 := by
          rcases reduced.full with bottom | full
          · exact bottom
          · omega
        subst bottom
        exact unpack_pack_of_lt subnormal
      · have length : mantissa.log2 = 52 :=
          (Nat.log2_eq_iff positive.ne').mpr ⟨normal, reduced.short⟩
        exact unpack_pack_finite length reduced.least greatest

theorem Represents.canonical {r : ℝ} {x : UnpackedFloat} (represents : Represents r x) :
    Canonical x := by
  cases represents with
  | zero vanished => exact .zero _
  | finite reduced greatest value => exact .finite reduced greatest

theorem Represents.value?_eq {r : ℝ} {x : UnpackedFloat} (represents : Represents r x) :
    value? x = some (r : EReal) := by
  cases represents with
  | zero vanished => rw [vanished]; rfl
  | finite reduced greatest value => rw [← value]; rfl

theorem represents_of_value? {r : ℝ} {x : UnpackedFloat} (canonical : Canonical x)
    (valued : value? x = some (r : EReal)) : Represents r x := by
  cases canonical with
  | notANumber => cases valued
  | infinity sign => cases sign <;> simp [value?] at valued
  | zero sign => exact .zero (EReal.coe_injective (Option.some.inj valued)).symm
  | finite reduced greatest => exact .finite reduced greatest (by simpa [value?] using valued)

theorem Rounded.represents {sign : Sign} {r : ℝ} {x : UnpackedFloat} (rounded : Rounded sign r x)
    {m : Nat} {e : Int} (reduced : Reduced m e) (greatest : e ≤ 971) (le : r ≤ magnitude m e) :
    Represents (signed sign r) x := by
  cases rounded with
  | zero vanished =>
      rw [vanished]
      exact .zero (by cases sign <;> simp [signed])
  | @finite mantissa exponent positive form value =>
      refine .finite form ?_ (by rw [value])
      by_contra beyond
      have lt := reduced.lt_of_exponent_lt form (by omega)
      linarith

/-- Too great an exponent makes an infinity of a number, but nothing makes NaN of it. -/
theorem Rounded.value?_toFloat {sign : Sign} {r : ℝ} {x : UnpackedFloat}
    (rounded : Rounded sign r x) : value? (toFloat x).toModel.unpack ≠ none := by
  cases rounded with
  | zero vanished =>
      rw [unpack_toFloat (.zero _)]
      simp [value?]
  | @finite mantissa exponent positive reduced value =>
      rcases lt_or_ge 971 exponent with beyond | fits
      · have infinite : (toFloat (.finite sign mantissa exponent positive)).toModel.unpack =
            (toFloat (.infinity sign)).toModel.unpack := by
          exact congrArg (UnpackedFloat.unpack Format.binary64) (pack_of_lt positive beyond)
        rw [infinite, unpack_toFloat (.infinity sign)]
        cases sign <;> simp [value?]
      · rw [unpack_toFloat (.finite reduced fits)]
        simp [value?]

end UnpackedFloat

end ApiStub
