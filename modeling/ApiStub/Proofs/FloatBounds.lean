import ApiStub.Proofs.FloatRounding

/-!
# Arithmetic that stays within bounds

The steps of a weighted mean, each with the exact values of what goes in and what comes out. A
fraction is a number from zero to one: one less a fraction is a fraction again, a finite float times
a fraction is finite, and the sum of two finite floats is at worst infinite. A quotient by `2 ^ 53`
of a smaller natural number is a fraction below one.
-/

namespace ApiStub

open Float.Model (Format UnpackedFloat)
open Float.Model.UnpackedFloat (Sign decreaseExponent)

namespace UnpackedFloat

theorem magnitude_mul (m n : Nat) (e f : Int) :
    magnitude (m * n) (e + f) = magnitude m e * magnitude n f := by
  rw [magnitude, magnitude, magnitude, zpow_add₀ two_ne_zero]
  push_cast
  ring

theorem magnitude_one : magnitude (2 ^ 52) (-52) = 1 := by
  rw [magnitude]
  norm_num

theorem reduced_one : Reduced (2 ^ 52) (-52) := ⟨by decide, by decide, .inr (Nat.le_refl _)⟩

section Operations

variable {x y : UnpackedFloat} {r s : ℝ}

theorem Rounded.nonneg {sign : Sign} (rounded : Rounded sign r x) : 0 ≤ r := by
  cases rounded with
  | zero vanished => exact vanished.ge
  | @finite mantissa exponent positive reduced value =>
      rw [← value]
      exact (magnitude_pos positive exponent).le

theorem Represents.rounded (represents : Represents r x) : ∃ sign t, Rounded sign t x := by
  cases represents with
  | zero vanished => exact ⟨_, 0, .zero rfl⟩
  | finite reduced greatest value => exact ⟨_, _, .finite reduced rfl⟩

theorem Reduced.ample_mul {m n : Nat} {e f : Int} (first : Reduced m e) (second : Reduced n f)
    (positive : 0 < m) (positiveOther : 0 < n) : Ample (m * n) (e + f) := by
  have product : m * n ≠ 0 := (Nat.mul_pos positive positiveOther).ne'
  rcases first.full with low | full
  · rcases second.full with lowOther | full
    · exact .inr (by omega)
    · exact .inl ((Nat.le_log2 product).mpr (full.trans (Nat.le_mul_of_pos_left _ positive)))
  · exact .inl ((Nat.le_log2 product).mpr (full.trans (Nat.le_mul_of_pos_right _ positiveOther)))

/-- A finite float times a fraction is finite. -/
theorem represents_mul (first : Represents r x) (second : Represents s y) (least : 0 ≤ s)
    (greatest : s ≤ 1) : ∃ p, Represents p (UnpackedFloat.mul Format.binary64 x y) := by
  cases first with
  | zero vanished =>
      cases second with
      | zero _ => exact ⟨0, .zero rfl⟩
      | finite _ _ _ => exact ⟨0, .zero rfl⟩
  | @finite sign m e positive reduced fits value =>
      cases second with
      | zero _ => exact ⟨0, .zero rfl⟩
      | @finite signOther n f positiveOther reducedOther fitsOther valueOther =>
          have above := magnitude_pos positive e
          have small : magnitude n f ≤ 1 := by
            cases signOther with
            | positive => exact valueOther.trans_le greatest
            | negative =>
                have aboveOther := magnitude_pos positiveOther f
                simp only [signed] at valueOther
                linarith
          have product : magnitude (m * n) (e + f) ≤ magnitude m e := by
            rw [magnitude_mul]
            exact mul_le_of_le_one_right above.le small
          rcases roundsTo_roundWithAccuracy (sign * signOther)
            (reduced.ample_mul reducedOther positive positiveOther) with ⟨p, rounded, bound⟩
          have kept := bound m e reduced.short.le reduced.least product
          exact ⟨_, rounded.represents reduced fits kept⟩

/-- The sum of two finite floats is rounded, so that it is not NaN. -/
theorem rounded_add (first : Represents r x) (second : Represents s y) :
    ∃ sign t, Rounded sign t (UnpackedFloat.add Format.binary64 x y) := by
  cases first with
  | @zero sign vanished =>
      cases second with
      | @zero signOther _ =>
          cases sign <;> cases signOther <;> exact ⟨_, 0, .zero rfl⟩
      | finite reduced fits value => exact (Represents.finite reduced fits value).rounded
  | finite reduced fits value =>
      cases second with
      | zero vanished => exact (Represents.finite reduced fits value).rounded
      | finite reducedOther fitsOther valueOther => exact rounded_normalize _ _

/-- One less a fraction is a fraction. -/
theorem represents_one_sub (second : Represents s y) (least : 0 ≤ s) (greatest : s ≤ 1)
    (positive : 0 < 2 ^ 52) : ∃ p, 0 ≤ p ∧ p ≤ 1 ∧
      Represents p (UnpackedFloat.sub Format.binary64 (.finite .positive (2 ^ 52) (-52) positive)
        y) := by
  cases second with
  | zero vanished =>
      exact ⟨1, zero_le_one, le_rfl, .finite reduced_one (by decide) magnitude_one⟩
  | @finite sign m e positiveOther reduced fits value =>
      cases sign with
      | negative =>
          have above := magnitude_pos positiveOther e
          simp only [signed] at value
          linarith
      | positive =>
          -- Both numbers are written with the lesser exponent, and the integers are subtracted.
          have whole : magnitude (2 ^ 52 * 2 ^ (-52 - min (-52) e).toNat) (min (-52) e) = 1 := by
            rw [magnitude_shift, ← magnitude_one]
            congr 1
            omega
          have part : magnitude (m * 2 ^ (e - min (-52) e).toNat) (min (-52) e) = s := by
            rw [magnitude_shift, ← value, signed]
            congr 1
            omega
          have less : m * 2 ^ (e - min (-52) e).toNat ≤ 2 ^ 52 * 2 ^ (-52 - min (-52) e).toNat := by
            rw [← magnitude_le_iff, part, whole]
            exact greatest
          rcases roundsTo_normalize (2 ^ 52 * 2 ^ (-52 - min (-52) e).toNat -
            m * 2 ^ (e - min (-52) e).toNat) (min (-52) e) with ⟨p, rounded, bound⟩
          have kept : p ≤ magnitude (2 ^ 52) (-52) := by
            apply bound _ _ (by decide) (by decide)
            rw [magnitude_one, ← whole, magnitude_le_iff]
            exact Nat.sub_le _ _
          refine ⟨p, rounded.nonneg, kept.trans magnitude_one.le, ?_⟩
          have represents := rounded.represents reduced_one (by decide) kept
          simp only [UnpackedFloat.sub, decreaseExponent, Nat.shiftLeft_eq, Sign.apply]
          rw [Int.ofNat_sub less] at represents
          exact represents

/-- The quotient by `2 ^ 53` has no remainder. -/
theorem divCore_two_pow {m : Nat} {e : Int} (length : m.log2 = 52) (least : -52 ≤ e) :
    UnpackedFloat.divCore Format.binary64 m e (2 ^ 52) 1 = (m * 2 ^ 1, e - 54, .exact) := by
  have target : Format.binary64.targetExponent
      (Float.Model.totalExponent m e - Float.Model.totalExponent (2 ^ 52) 1) = e - 54 := by
    have lengthOther : (2 ^ 52).log2 = 52 := Nat.log2_two_pow
    simp only [Format.targetExponent, Float.Model.totalExponent, Format.mantissaBits,
      Format.minExponent, length, lengthOther]
    omega
  have place : min (e - 1) (e - 54) = e - 54 := by omega
  have amount : (e - 1 - (e - 54)).toNat = 53 := by omega
  have whole : m * 2 ^ 53 = m * 2 ^ 1 * 2 ^ 52 := by omega
  simp only [UnpackedFloat.divCore, target, place, amount, Nat.shiftLeft_eq, whole,
    Nat.mul_div_cancel _ (Nat.two_pow_pos 52), Nat.mul_mod_left]
  rfl

/-- A natural number of 53 bits over `2 ^ 53` is a fraction below one. -/
theorem represents_div {n : Nat} (short : n < 2 ^ 53) (stands : Stands .positive n x)
    (positive : 0 < 2 ^ 52) : ∃ s, 0 ≤ s ∧ s < 1 ∧
      Represents s
        (UnpackedFloat.div Format.binary64 x (.finite .positive (2 ^ 52) 1 positive)) := by
  rcases stands with @⟨m, e, positiveOther, length, least, greatest, scaled⟩
  have bounds := (Nat.log2_eq_iff positiveOther.ne').mp length
  have reduced : Reduced m (e - 53) := ⟨bounds.2, by omega, .inr bounds.1⟩
  have below : magnitude m (e - 53) < 1 := by
    have place : magnitude m (e - 53) = magnitude (m * 2 ^ (e + 52).toNat) (-105) := by
      rw [magnitude_shift]
      congr 1
      omega
    have one : magnitude (2 ^ 52 * 2 ^ 53) (-105) = 1 := by
      rw [magnitude_shift]
      exact magnitude_one
    rw [place, scaled, ← one, magnitude_lt_iff]
    omega
  have halved : magnitude (m * 2 ^ 1) (e - 54) = magnitude m (e - 53) := by
    rw [magnitude_shift]
    congr 1
    omega
  have ample : Ample (m * 2 ^ 1) (e - 54) := .inl ((Nat.le_log2 (by omega)).mpr (by omega))
  rcases roundsTo_roundWithAccuracy .positive ample with ⟨s, rounded, bound⟩
  have kept := bound m (e - 53) reduced.short.le reduced.least halved.le
  refine ⟨s, rounded.nonneg, kept.trans_lt below, ?_⟩
  have represents := rounded.represents reduced (by omega) kept
  simp only [UnpackedFloat.div, divCore_two_pow length least]
  exact represents

theorem exactValue?_toFloat (represents : Represents r x) :
    exactValue? (toFloat x) = some (r : EReal) := by
  rw [exactValue?, unpack_toFloat represents.canonical, represents.value?_eq]

theorem represents_unpack {x : Float} (valued : exactValue? x = some (r : EReal)) :
    Represents r x.toModel.unpack :=
  represents_of_value? (canonical_unpack _) valued

end Operations

end UnpackedFloat

/-! ## Operations on floats -/

open UnpackedFloat (toFloat represents_unpack)

section Floats

variable {x y : Float} {r s : ℝ}

theorem exactValue?_one : exactValue? 1.0 = some ((1 : ℝ) : EReal) := by
  rw [← UnpackedFloat.magnitude_one]
  rfl

theorem exactValue?_mul (first : exactValue? x = some (r : EReal))
    (second : exactValue? y = some (s : EReal)) (least : 0 ≤ s) (greatest : s ≤ 1) :
    ∃ p : ℝ, exactValue? (x * y) = some (p : EReal) := by
  rcases UnpackedFloat.represents_mul (represents_unpack first) (represents_unpack second) least
    greatest with ⟨p, represents⟩
  exact ⟨p, UnpackedFloat.exactValue?_toFloat represents⟩

theorem exactValue?_add (first : exactValue? x = some (r : EReal))
    (second : exactValue? y = some (s : EReal)) : ∃ a, exactValue? (x + y) = some a := by
  rcases UnpackedFloat.rounded_add (represents_unpack first) (represents_unpack second) with
    ⟨sign, t, rounded⟩
  exact Option.ne_none_iff_exists'.mp rounded.value?_toFloat

theorem exactValue?_one_sub (valued : exactValue? y = some (s : EReal)) (least : 0 ≤ s)
    (greatest : s ≤ 1) :
    ∃ p : ℝ, 0 ≤ p ∧ p ≤ 1 ∧ exactValue? (1.0 - y) = some (p : EReal) := by
  rcases UnpackedFloat.represents_one_sub (represents_unpack valued) least greatest (by decide) with
    ⟨p, above, below, represents⟩
  exact ⟨p, above, below, UnpackedFloat.exactValue?_toFloat represents⟩

theorem exactValue?_div {n : Nat} (short : n < 2 ^ 53) :
    ∃ s : ℝ, 0 ≤ s ∧ s < 1 ∧
      exactValue? (Float.ofNat n / 9007199254740992.0) = some (s : EReal) := by
  rcases Nat.eq_zero_or_pos n with rfl | positive
  · exact ⟨0, le_rfl, zero_lt_one, rfl⟩
  · have length : n.log2 ≤ 52 := by
      have bound := (Nat.log2_lt positive.ne').mpr short
      omega
    have stands := stands_ofNat_of_short positive length
    rcases UnpackedFloat.represents_div short stands (by decide) with ⟨s, above, below, represents⟩
    refine ⟨s, above, below, ?_⟩
    rw [ofNat_of_short positive length]
    change exactValue? (toFloat (UnpackedFloat.div Format.binary64 (toFloat _).toModel.unpack _)) = _
    rw [stands.unpack_toFloat]
    exact UnpackedFloat.exactValue?_toFloat represents

end Floats

end ApiStub
