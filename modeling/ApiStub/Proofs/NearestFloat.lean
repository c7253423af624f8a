import ApiStub.Proofs.FloatLayout
import ApiStub.Proofs.NearestInteger

/-!
# Integers as floats

`Float.ofInt n` is exactly the integer `nearest n`. Rounding shifts a mantissa bit by bit and keeps
two bits of what has been dropped, the round bit and the sticky bit; `shiftOut` says what they are
after any number of steps, and that they decide `roundedShift`. A conversion takes one of two ways.
A number of at most 53 bits is moved to a normal form without a loss, and multiplied by one; a
longer one is rounded once.
-/

namespace ApiStub

open Float.Model (Format UnpackedFloat)
open Float.Model.UnpackedFloat (Sign ExtendedMantissa roundWithAccuracy shiftToTargetExponent)

namespace UnpackedFloat

/-! ## Shifting a mantissa -/

/-- The mantissa after a shift by `bits`, with what the dropped bits say: whether they are half a
unit or more, and whether they are anything besides nothing and exactly half. -/
def shiftOut (n bits : Nat) : ExtendedMantissa where
  mantissa := n / 2 ^ bits
  roundBit := decide (2 ^ bits ≤ 2 * (n % 2 ^ bits))
  stickyBit := decide (2 * (n % 2 ^ bits) ≠ 0 ∧ 2 * (n % 2 ^ bits) ≠ 2 ^ bits)

theorem shiftRightOne_shiftOut (n bits : Nat) :
    (shiftOut n bits).shiftRightOne = shiftOut n (bits + 1) := by
  have below := Nat.mod_lt n (Nat.two_pow_pos bits)
  have kept : n / 2 ^ (bits + 1) = n / 2 ^ bits / 2 := by
    rw [pow_succ, Nat.div_div_eq_div_mul]
  have dropped : n % 2 ^ (bits + 1) = n % 2 ^ bits + 2 ^ bits * (n / 2 ^ bits % 2) :=
    Nat.mod_pow_succ
  rw [shiftOut, shiftOut, kept, dropped, pow_succ]
  simp only [ExtendedMantissa.shiftRightOne, ExtendedMantissa.mk.injEq, true_and]
  generalize n % 2 ^ bits = rest at *
  rcases Nat.mod_two_eq_zero_or_one (n / 2 ^ bits) with even | odd
  · rw [even, ← Bool.decide_or]
    exact ⟨(decide_eq_false (by omega)).symm, decide_eq_decide.mpr (by omega)⟩
  · rw [odd, ← Bool.decide_or]
    exact ⟨(decide_eq_true (by omega)).symm, decide_eq_decide.mpr (by omega)⟩

theorem shiftRight_exact (n bits : Nat) :
    ExtendedMantissa.ofMantissaAndAccuracy n .exact >>> bits = shiftOut n bits := by
  change bits.repeat ExtendedMantissa.shiftRightOne _ = _
  induction bits with
  | zero => simp [Nat.repeat, shiftOut, ExtendedMantissa.ofMantissaAndAccuracy, Nat.mod_one]
  | succ bits ih => rw [Nat.repeat, ih, shiftRightOne_shiftOut]

/-- The two bits decide which way the quotient is rounded. -/
theorem roundedMantissa_shiftOut (n bits : Nat) :
    (shiftOut n bits).roundedMantissa = roundedShift n bits := by
  have pos := Nat.two_pow_pos bits
  simp only [roundedShift, shiftOut]
  generalize 2 * (n % 2 ^ bits) = double
  rcases Nat.lt_trichotomy double (2 ^ bits) with lt | tie | gt
  · have low : decide (2 ^ bits ≤ double) = false := decide_eq_false (by omega)
    rw [if_pos lt, low]
    cases decide (double ≠ 0 ∧ double ≠ 2 ^ bits) <;> rfl
  · simp only [tie, le_refl, decide_true, lt_irrefl, if_false, ne_eq, not_true, and_false,
      decide_false]
    rfl
  · have high : decide (2 ^ bits ≤ double) = true := decide_eq_true (by omega)
    have sticky : decide (double ≠ 0 ∧ double ≠ 2 ^ bits) = true := decide_eq_true (by omega)
    rw [if_neg (by omega), if_pos gt, high, sticky]
    rfl

/-! ## Rounding to 53 bits -/

section Rounding

variable (sign : Sign) {n : Nat} {exponent : Int}

theorem targetExponent_totalExponent (normal : -1074 ≤ exponent + n.log2 - 52) :
    Format.binary64.targetExponent (Float.Model.totalExponent n exponent) =
      exponent + n.log2 - 52 := by
  simp [Format.targetExponent, Float.Model.totalExponent, Format.mantissaBits, Format.minExponent]
  omega

theorem shiftToTargetExponent_exact (wide : 52 ≤ n.log2) (normal : -1074 ≤ exponent) :
    shiftToTargetExponent Format.binary64 n exponent .exact =
      (shiftOut n (n.log2 - 52), exponent + (n.log2 - 52 : Nat)) := by
  have target := @targetExponent_totalExponent n exponent (by omega)
  have amount : (exponent + n.log2 - 52 - exponent).toNat = n.log2 - 52 := by omega
  simp only [shiftToTargetExponent, UnpackedFloat.shiftToExponent, target, amount,
    shiftRight_exact]

/-- The last step of rounding: a mantissa that has come out one bit too long is shifted back. -/
def settled (sign : Sign) (mantissa : Nat) (exponent : Int) : UnpackedFloat :=
  let (shifted, exponent) := shiftToTargetExponent Format.binary64 mantissa exponent .exact
  if zero : shifted.mantissa = 0 then .zero sign
  else .finite sign shifted.mantissa exponent (Nat.pos_of_ne_zero zero)

theorem roundWithAccuracy_exact (wide : 52 ≤ n.log2) (normal : -1074 ≤ exponent) :
    roundWithAccuracy Format.binary64 sign n exponent .exact =
      settled sign (roundedShift n (n.log2 - 52)) (exponent + (n.log2 - 52 : Nat)) := by
  rw [roundWithAccuracy, shiftToTargetExponent_exact wide normal, ← roundedMantissa_shiftOut]
  rfl

theorem settled_of_fits (length : n.log2 = 52) (normal : -1074 ≤ exponent) :
    ∃ positive, settled sign n exponent = .finite sign n exponent positive := by
  have nonzero : n ≠ 0 := by
    rintro rfl
    simp at length
  have shift : shiftToTargetExponent Format.binary64 n exponent .exact =
      (⟨n, false, false⟩, exponent) := by
    rw [shiftToTargetExponent_exact length.ge normal, length]
    simp [shiftOut, Nat.mod_one]
  refine ⟨Nat.pos_of_ne_zero nonzero, ?_⟩
  simp only [settled, shift]
  rw [dif_neg nonzero]

theorem settled_of_carry (normal : -1074 ≤ exponent) :
    settled sign (2 ^ 53) exponent = .finite sign (2 ^ 52) (exponent + 1) (by decide) := by
  have shift : shiftToTargetExponent Format.binary64 (2 ^ 53) exponent .exact =
      (⟨2 ^ 52, false, false⟩, exponent + 1) := by
    have length : (2 ^ 53).log2 = 53 := Nat.log2_two_pow
    rw [shiftToTargetExponent_exact (by omega) normal, length]
    simp [shiftOut]
  simp only [settled, shift]
  rfl

theorem roundWithAccuracy_of_fits (length : n.log2 = 52) (normal : -1074 ≤ exponent) :
    ∃ positive, roundWithAccuracy Format.binary64 sign n exponent .exact =
      .finite sign n exponent positive := by
  rw [roundWithAccuracy_exact sign length.ge normal, length, Nat.sub_self, roundedShift_zero]
  simpa using settled_of_fits sign length normal

/-- A whole number of units, settled, is what it was. -/
theorem stands_settled {mantissa bits : Nat} (least : 2 ^ 52 ≤ mantissa)
    (greatest : mantissa ≤ 2 ^ 53) (small : bits ≤ 970) :
    Stands sign (mantissa * 2 ^ bits) (settled sign mantissa bits) := by
  have normal : -1074 ≤ (bits : Int) := by omega
  rcases Nat.lt_or_eq_of_le greatest with fits | rfl
  · have length : mantissa.log2 = 52 := (Nat.log2_eq_iff (by omega)).mpr ⟨least, fits⟩
    rcases settled_of_fits sign length normal with ⟨_, same⟩
    rw [same]
    refine .intro length (by omega) (by omega) ?_
    rw [show ((bits : Int) + 52).toNat = bits + 52 by omega, pow_add, Nat.mul_assoc]
  · rw [settled_of_carry sign normal]
    refine .intro Nat.log2_two_pow (by omega) (by omega) ?_
    rw [show ((bits : Int) + 1 + 52).toNat = 1 + bits + 52 by omega]
    ring

end Rounding

end UnpackedFloat

/-! ## Conversion -/

open UnpackedFloat (toFloat Stands)

theorem log2_mul_two_pow {n : Nat} (positive : 0 < n) (bits : Nat) :
    (n * 2 ^ bits).log2 = n.log2 + bits := by
  have bounds := (Nat.log2_eq_iff positive.ne').mp rfl
  rw [Nat.log2_eq_iff (by positivity)]
  refine ⟨?_, ?_⟩
  · rw [pow_add]
    exact Nat.mul_le_mul_right _ bounds.1
  · rw [show n.log2 + bits + 1 = n.log2 + 1 + bits by omega, pow_add]
    exact Nat.mul_lt_mul_of_pos_right bounds.2 (Nat.two_pow_pos bits)

/-- The float one, as conversions write it. -/
def oneFloat : Float := Float.ofBits 0x3FF0000000000000

/-- Multiplying by one changes no normal float. -/
theorem mul_oneFloat {sign : Sign} {n : Nat} {x : UnpackedFloat} (stands : Stands sign n x) :
    toFloat x * oneFloat = toFloat x := by
  have one : oneFloat.toModel.unpack = .finite .positive (2 ^ 52) (-52) (by decide) := rfl
  change toFloat (Float.Model.UnpackedFloat.mul Format.binary64 _ _) = _
  rw [stands.unpack_toFloat, one]
  rcases stands with @⟨mantissa, exponent, positive, length, least, greatest, _⟩
  have wide := log2_mul_two_pow positive 52
  have amount : (mantissa * 2 ^ 52).log2 - 52 = 52 := by omega
  have same : sign * .positive = sign := by cases sign <;> rfl
  have place : exponent + -52 + (52 : Nat) = exponent := by omega
  have normal : -1074 ≤ exponent := by omega
  rcases UnpackedFloat.settled_of_fits sign length normal with ⟨_, settled⟩
  simp only [Float.Model.UnpackedFloat.mul, same]
  rw [UnpackedFloat.roundWithAccuracy_exact sign (by omega) (by omega), amount,
    roundedShift_mul_two_pow, place, settled]

theorem stands_ofNat_of_short {n : Nat} (positive : 0 < n) (short : n.log2 ≤ 52) :
    Stands .positive n (Float.Model.UnpackedFloat.ofNat Format.binary64 n) := by
  have direction : compare (n : Int) 0 = .gt := by
    rw [Int.compare_eq_gt]
    omega
  have target : (0 - Format.binary64.targetExponent (Float.Model.totalExponent n 0)).toNat =
      52 - n.log2 := by
    rw [UnpackedFloat.targetExponent_totalExponent (by omega)]
    omega
  have length : (n * 2 ^ (52 - n.log2)).log2 = 52 := by
    rw [log2_mul_two_pow positive]
    omega
  simp only [Float.Model.UnpackedFloat.ofNat, Float.Model.UnpackedFloat.ofInt,
    Float.Model.UnpackedFloat.normalize, direction, Float.Model.UnpackedFloat.round,
    Float.Model.UnpackedFloat.decreaseExponent, target, Int.toNat_natCast, Nat.shiftLeft_eq]
  have normal : -1074 ≤ 0 - ((52 - n.log2 : Nat) : Int) := by omega
  rcases UnpackedFloat.roundWithAccuracy_of_fits .positive length normal with ⟨_, same⟩
  rw [same]
  refine .intro length (by omega) (by omega) ?_
  rw [Nat.mul_assoc, ← pow_add]
  congr 2
  omega

theorem ofNat_of_short {n : Nat} (positive : 0 < n) (short : n.log2 ≤ 52) :
    Float.ofNat n = toFloat (Float.Model.UnpackedFloat.ofNat Format.binary64 n) := by
  have fits : n < 2 ^ 53 := (Nat.log2_lt positive.ne').mp (by omega)
  have word : n.toUInt64.toNat = n := by
    simp
    omega
  calc Float.ofNat n = n.toUInt64.toFloat * oneFloat := by
        change Float.ofScientific n false 0 = _
        rw [Float.ofScientific, dif_pos ⟨fits, by decide⟩]
        rfl
    _ = toFloat (Float.Model.UnpackedFloat.ofNat Format.binary64 n) * oneFloat := by
        change toFloat (Float.Model.UnpackedFloat.ofNat _ n.toUInt64.toNat) * _ = _
        rw [word]
    _ = _ := mul_oneFloat (stands_ofNat_of_short positive short)

theorem ofNat_of_long {n : Nat} (long : 52 < n.log2) : Float.ofNat n =
    toFloat (roundWithAccuracy Format.binary64 .positive (n * 2 ^ 53) (-53) .exact) := by
  have nonzero : n ≠ 0 := by
    rintro rfl
    simp at long
  have large : 2 ^ 53 ≤ n := (Nat.le_log2 nonzero).mp long
  change Float.ofScientific n false 0 = _
  rw [Float.ofScientific, dif_neg (by omega)]
  change toFloat (Float.Model.UnpackedFloat.ofScientific Format.binary64 n 0) = _
  rw [Float.Model.UnpackedFloat.ofScientific, dif_neg nonzero, if_neg (by decide),
    if_neg (by simp), if_pos (by decide), ← Nat.mul_one (n * 2 ^ 53)]
  simp only [Float.Model.UnpackedFloat.mul, Nat.shiftLeft_eq]
  rfl

theorem stands_ofNat {n : Nat} (positive : 0 < n) (bounded : n.log2 < 1023) :
    ∃ x, Float.ofNat n = toFloat x ∧ Stands .positive (nearestNat n) x := by
  rcases Nat.lt_or_ge 52 n.log2 with long | short
  · refine ⟨_, ofNat_of_long long, ?_⟩
    have wide := roundedShift_wide long.le
    have length := log2_mul_two_pow positive 53
    have amount : (n * 2 ^ 53).log2 - 52 = n.log2 - 52 + 53 := by omega
    have place : -53 + ((n.log2 - 52 + 53 : Nat) : Int) = (n.log2 - 52 : Nat) := by omega
    rw [UnpackedFloat.roundWithAccuracy_exact .positive (by omega) (by decide), amount,
      roundedShift_add, place]
    exact UnpackedFloat.stands_settled .positive wide.1 wide.2 (by omega)
  · refine ⟨_, ofNat_of_short positive short, ?_⟩
    rw [nearestNat_of_log2_le short]
    exact stands_ofNat_of_short positive short

/-- A float converted from an integer is exactly the nearest integer of 53 significant bits. -/
theorem ofFloat?_ofInt {n : Int} (bounded : n.natAbs.log2 < 1023) :
    ∃ value, Binary64.ofFloat? (Float.ofInt n) = some value ∧ value.IsInteger (nearest n) := by
  rcases n with (_ | k) | k
  · exact ⟨_, rfl, Binary64.isInteger_zero false (-1074)⟩
  · rcases stands_ofNat k.succ_pos bounded with ⟨x, converted, stands⟩
    have read := stands.ofFloat?_toFloat
    rw [← converted] at read
    exact read
  · rcases stands_ofNat k.succ_pos bounded with ⟨x, converted, stands⟩
    have negated : Float.ofInt (.negSucc k) = toFloat x.neg := by
      change Float.neg (Float.ofNat (k + 1)) = _
      rw [converted]
      change toFloat (Float.Model.UnpackedFloat.neg (toFloat x).toModel.unpack) = _
      rw [stands.unpack_toFloat]
    have read := stands.neg.ofFloat?_toFloat
    rw [← negated] at read
    exact read

end ApiStub
