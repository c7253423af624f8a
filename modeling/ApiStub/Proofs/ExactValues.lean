import ApiStub.Proofs.FloatLayout

/-!
# The exact values of floats

A float that is not NaN is an extended real number. Floats are compared by their fields; of fields
in reduced form the exponents decide first, so that the comparison is that of the exact values. The
two zeros have one value, and NaN, which has none, compares to nothing.

`Binary64.ofFloat?` reads the same fields, so its roundings are the floor, the ceiling and the
nearest integer of the exact value.
-/

namespace ApiStub

open Float.Model (Format UnpackedFloat)
open Float.Model.UnpackedFloat (Sign)

namespace UnpackedFloat

/-! ## Reduced forms -/

/-- A mantissa of at most 53 bits, of which the first is set unless the exponent is the least. -/
structure Reduced (mantissa : Nat) (exponent : Int) : Prop where
  short : mantissa < 2 ^ 53
  least : -1074 ≤ exponent
  full : exponent = -1074 ∨ 2 ^ 52 ≤ mantissa

/-- The number `mantissa · 2 ^ exponent`. -/
noncomputable def magnitude (mantissa : Nat) (exponent : Int) : ℝ := mantissa * (2 : ℝ) ^ exponent

theorem magnitude_pos {mantissa : Nat} (positive : 0 < mantissa) (exponent : Int) :
    0 < magnitude mantissa exponent := by
  rw [magnitude]
  positivity

theorem magnitude_shift (mantissa bits : Nat) (exponent : Int) :
    magnitude (mantissa * 2 ^ bits) exponent = magnitude mantissa (exponent + bits) := by
  rw [magnitude, magnitude, zpow_add₀ two_ne_zero, zpow_natCast]
  push_cast
  ring

theorem magnitude_lt_iff {first second : Nat} {exponent : Int} :
    magnitude first exponent < magnitude second exponent ↔ first < second := by
  rw [magnitude, magnitude, mul_lt_mul_iff_left₀ (by positivity), Nat.cast_lt]

theorem magnitude_le_iff {first second : Nat} {exponent : Int} :
    magnitude first exponent ≤ magnitude second exponent ↔ first ≤ second := by
  rw [magnitude, magnitude, mul_le_mul_iff_left₀ (by positivity), Nat.cast_le]

theorem magnitude_two_pow_le {e f : Int} (lt : e < f) :
    magnitude (2 ^ 53) e ≤ magnitude (2 ^ 52) f := by
  have place : magnitude (2 ^ 52) f = magnitude (2 ^ 52 * 2 ^ (f - e).toNat) e := by
    rw [magnitude_shift]
    congr 1
    omega
  rw [place, magnitude_le_iff, ← pow_add]
  exact Nat.pow_le_pow_right (by decide) (by omega)

theorem Reduced.lt_of_exponent_lt {m n : Nat} {e f : Int} (first : Reduced m e)
    (second : Reduced n f) (lt : e < f) : magnitude m e < magnitude n f := by
  have full : 2 ^ 52 ≤ n := by
    rcases second.full with bottom | full
    · have least := first.least
      omega
    · exact full
  have low : magnitude m e < magnitude (2 ^ 53) e := magnitude_lt_iff.mpr first.short
  have high : magnitude (2 ^ 52) f ≤ magnitude n f := magnitude_le_iff.mpr full
  exact low.trans_le ((magnitude_two_pow_le lt).trans high)

/-- The exponents decide, and the mantissas between equal ones. -/
theorem Reduced.compares {m n : Nat} {e f : Int} (first : Reduced m e) (second : Reduced n f) :
    ((compare e f).then (compare m n)).Compares (magnitude m e) (magnitude n f) := by
  rcases lt_trichotomy e f with lt | rfl | gt
  · rw [Int.compare_eq_lt.mpr lt]
    exact first.lt_of_exponent_lt second lt
  · rw [Int.compare_eq_eq.mpr rfl]
    rcases lt_trichotomy m n with less | rfl | more
    · rw [Nat.compare_eq_lt.mpr less]
      exact magnitude_lt_iff.mpr less
    · rw [Nat.compare_eq_eq.mpr rfl]
      exact Eq.refl (magnitude m e)
    · rw [Nat.compare_eq_gt.mpr more]
      exact magnitude_lt_iff.mpr more
  · rw [Int.compare_eq_gt.mpr gt]
    exact second.lt_of_exponent_lt first gt

/-- What a float is unpacked into. -/
inductive Canonical : UnpackedFloat → Prop
  | notANumber : Canonical .notANumber
  | infinity (sign : Sign) : Canonical (.infinity sign)
  | zero (sign : Sign) : Canonical (.zero sign)
  | finite {sign : Sign} {mantissa : Nat} {exponent : Int} {positive : 0 < mantissa}
      (reduced : Reduced mantissa exponent) (greatest : exponent ≤ 971) :
      Canonical (.finite sign mantissa exponent positive)

theorem toNat_one_append (mantissa : BitVec 52) :
    (1#1 ++ mantissa).toNat = 2 ^ 52 + mantissa.toNat := by
  rw [BitVec.toNat_append, ← Nat.shiftLeft_add_eq_or_of_lt mantissa.isLt, Nat.shiftLeft_eq]
  rfl

theorem canonical_unpack (bits : BitVec 64) :
    Canonical (UnpackedFloat.unpack Format.binary64 bits) := by
  rw [UnpackedFloat.unpack]
  simp only []
  have exponent_lt : (@UnpackedFloat.unpackExponent Format.binary64 bits).toNat < 2 ^ 11 :=
    BitVec.isLt _
  have mantissa_lt : (@UnpackedFloat.unpackMantissa Format.binary64 bits).toNat < 2 ^ 52 :=
    BitVec.isLt _
  have bias : (Format.binary64.exponentBias : Int) = 1023 := rfl
  generalize @UnpackedFloat.unpackExponent Format.binary64 bits = exponent at *
  split
  · split
    · exact .infinity _
    · exact .notANumber
  · rename_i notTop
    have below : exponent.toNat ≠ 2047 := by
      intro top
      exact notTop (BitVec.eq_of_toNat_eq top)
    split
    · rename_i bottom
      split
      · exact .zero _
      · refine .finite ⟨?_, ?_, .inl ?_⟩ ?_
        · omega
        · simp [bottom, Format.exponentBias]
        · simp [bottom, Format.exponentBias]
        · simp [bottom, Format.exponentBias]
    · rename_i notBottom
      have above : exponent.toNat ≠ 0 := by
        intro zero
        exact notBottom (BitVec.eq_of_toNat_eq zero)
      refine .finite ⟨?_, ?_, .inr ?_⟩ ?_
      · rw [toNat_one_append]
        omega
      · simp only [bias]
        omega
      · rw [toNat_one_append]
        omega
      · simp only [bias]
        omega

/-! ## Values -/

/-- A number with a sign. -/
noncomputable def signed : Sign → ℝ → ℝ
  | .positive, r => r
  | .negative, r => -r

/-- The exact value of an unpacked float; NaN has none. -/
noncomputable def value? : UnpackedFloat → Option EReal
  | .notANumber => none
  | .infinity .positive => some ⊤
  | .infinity .negative => some ⊥
  | .zero _ => some (0 : ℝ)
  | .finite sign mantissa exponent _ => some (signed sign (magnitude mantissa exponent))

theorem compares_coe {order : Ordering} {r s : ℝ} (compares : order.Compares r s) :
    order.Compares (r : EReal) (s : EReal) := by
  cases order with
  | lt => exact EReal.coe_lt_coe compares
  | eq => exact congrArg _ compares
  | gt => exact EReal.coe_lt_coe compares

theorem compares_neg {order : Ordering} {r s : ℝ} (compares : order.Compares r s) :
    order.swap.Compares (-r) (-s) := by
  cases order with
  | lt => exact neg_lt_neg compares
  | eq => exact congrArg _ compares
  | gt => exact neg_lt_neg compares

/-- The order in which two floats are found is that of two values. -/
def ComparesAs (x y : UnpackedFloat) (a b : EReal) : Prop :=
  ∃ order : Ordering, x.compare y = some order ∧ order.Compares a b

section Comparing

variable {sign : Sign} {y : UnpackedFloat} {b : EReal}

theorem comparesAs_infinity {a : EReal} (valued : value? (.infinity sign) = some a)
    (valuedOther : value? y = some b) : ComparesAs (.infinity sign) y a b := by
  cases sign with
  | positive =>
      cases valued
      rcases y with (_ | _) | _ | _ | _ <;> cases valuedOther
      · exact ⟨.gt, rfl, bot_lt_top⟩
      · exact ⟨.eq, rfl, rfl⟩
      · exact ⟨.gt, rfl, EReal.coe_lt_top _⟩
      · exact ⟨.gt, rfl, EReal.coe_lt_top _⟩
  | negative =>
      cases valued
      rcases y with (_ | _) | _ | _ | _ <;> cases valuedOther
      · exact ⟨.eq, rfl, rfl⟩
      · exact ⟨.lt, rfl, bot_lt_top⟩
      · exact ⟨.lt, rfl, EReal.bot_lt_coe _⟩
      · exact ⟨.lt, rfl, EReal.bot_lt_coe _⟩

theorem comparesAs_zero (valuedOther : value? y = some b) :
    ComparesAs (.zero sign) y (0 : ℝ) b := by
  rcases y with (_ | _) | _ | _ | ⟨_ | _, mantissa, exponent, positive⟩ <;> cases valuedOther
  · exact ⟨.gt, rfl, EReal.bot_lt_coe _⟩
  · exact ⟨.lt, rfl, EReal.coe_lt_top _⟩
  · exact ⟨.eq, rfl, rfl⟩
  · exact ⟨.gt, rfl, EReal.coe_lt_coe (neg_lt_zero.mpr (magnitude_pos positive exponent))⟩
  · exact ⟨.lt, rfl, EReal.coe_lt_coe (magnitude_pos positive exponent)⟩

theorem comparesAs_finite {mantissa : Nat} {exponent : Int} {positive : 0 < mantissa}
    (reduced : Reduced mantissa exponent) (second : Canonical y)
    (valuedOther : value? y = some b) :
    ComparesAs (.finite sign mantissa exponent positive) y
      (signed sign (magnitude mantissa exponent) : ℝ) b := by
  have above := magnitude_pos positive exponent
  cases second with
  | notANumber => cases valuedOther
  | infinity other =>
      cases other <;> cases sign <;> cases valuedOther
      · exact ⟨.gt, rfl, EReal.bot_lt_coe _⟩
      · exact ⟨.gt, rfl, EReal.bot_lt_coe _⟩
      · exact ⟨.lt, rfl, EReal.coe_lt_top _⟩
      · exact ⟨.lt, rfl, EReal.coe_lt_top _⟩
  | zero other =>
      cases sign <;> cases valuedOther
      · exact ⟨.lt, rfl, EReal.coe_lt_coe (neg_lt_zero.mpr above)⟩
      · exact ⟨.gt, rfl, EReal.coe_lt_coe above⟩
  | @finite other mantissa' exponent' positive' reduced' greatest' =>
      have above' := magnitude_pos positive' exponent'
      have fields := reduced.compares reduced'
      cases sign <;> cases other <;> cases valuedOther
      · exact ⟨_, rfl, compares_coe (compares_neg fields)⟩
      · exact ⟨.lt, rfl, EReal.coe_lt_coe ((neg_lt_zero.mpr above).trans above')⟩
      · exact ⟨.gt, rfl, EReal.coe_lt_coe ((neg_lt_zero.mpr above').trans above)⟩
      · exact ⟨_, rfl, compares_coe fields⟩

/-- Two floats that have values are compared as their values are. -/
theorem comparesAs_value {x : UnpackedFloat} {a : EReal} (first : Canonical x)
    (second : Canonical y) (valued : value? x = some a) (valuedOther : value? y = some b) :
    ComparesAs x y a b := by
  cases first with
  | notANumber => cases valued
  | infinity sign => exact comparesAs_infinity valued valuedOther
  | zero sign =>
      cases valued
      exact comparesAs_zero valuedOther
  | finite reduced greatest =>
      cases valued
      exact comparesAs_finite reduced second valuedOther

end Comparing

theorem isNaN_iff {x : UnpackedFloat} : x.isNaN = true ↔ value? x = none := by
  cases x with
  | infinity sign => cases sign <;> simp [value?, UnpackedFloat.isNaN]
  | _ => simp [value?, UnpackedFloat.isNaN]

theorem isFinite_iff {x : UnpackedFloat} : x.isFinite = true ↔ ∃ r : ℝ, value? x = some r := by
  cases x with
  | infinity sign => cases sign <;> simp [value?, UnpackedFloat.isFinite]
  | notANumber => simp [value?, UnpackedFloat.isFinite]
  | zero sign => exact iff_of_true rfl ⟨_, rfl⟩
  | finite sign mantissa exponent positive => exact iff_of_true rfl ⟨_, rfl⟩

theorem compare_eq_none {x y : UnpackedFloat} (unordered : value? x = none ∨ value? y = none) :
    x.compare y = none := by
  rw [← isNaN_iff, ← isNaN_iff] at unordered
  cases x <;> cases y <;> simp_all [UnpackedFloat.isNaN, UnpackedFloat.compare]

/-- The fields of an unpacked float that is finite. -/
def fields? : UnpackedFloat → Option Binary64
  | .notANumber => none
  | .infinity _ => none
  | .zero sign => some ⟨isNegative sign, 0, -1074⟩
  | .finite sign mantissa exponent _ => some ⟨isNegative sign, mantissa, exponent⟩

theorem isNegative_ofBitVec (bit : BitVec 1) :
    isNegative (Sign.ofBitVec bit) = (bit.toNat == 1) := by
  rcases BitVec.eq_zero_or_eq_one bit with rfl | rfl <;> rfl

/-- The fields that unpacking finds are those that are read off the bits. -/
theorem fields?_unpack (x : Float) : fields? x.toModel.unpack = Binary64.ofFloat? x := by
  have bits : x.toModel.toBits.toNat = x.toBits.toNat := rfl
  have mantissa_eq : (@UnpackedFloat.unpackMantissa Format.binary64
      x.toModel.toBits.toBitVec).toNat = x.toBits.toNat % 2 ^ 52 := by
    simp [UnpackedFloat.unpackMantissa, BitVec.extractLsb_toNat, bits]
  have exponent_eq : (@UnpackedFloat.unpackExponent Format.binary64
      x.toModel.toBits.toBitVec).toNat = x.toBits.toNat / 2 ^ 52 % 2 ^ 11 := by
    simp [UnpackedFloat.unpackExponent, BitVec.extractLsb_toNat, Nat.shiftRight_eq_div_pow, bits]
  have sign_eq : (@UnpackedFloat.unpackSign Format.binary64
      x.toModel.toBits.toBitVec).toNat = x.toBits.toNat / 2 ^ 63 := by
    have bits_lt := x.toBits.toNat_lt
    have oneBit : x.toBits.toNat / 2 ^ 63 % 2 = x.toBits.toNat / 2 ^ 63 := by omega
    simpa [UnpackedFloat.unpackSign, BitVec.extractLsb_toNat, Nat.shiftRight_eq_div_pow, bits]
      using oneBit
  have isTop (bits : BitVec 11) : bits = -1#11 ↔ bits.toNat = 2047 := BitVec.toNat_inj.symm
  have isZero {n : Nat} (bits : BitVec n) : bits = 0#n ↔ bits.toNat = 0 := by
    rw [← BitVec.toNat_inj]
    simp
  have bias : (Format.binary64.exponentBias : Int) = 1023 := rfl
  rw [Binary64.ofFloat?, Float.Model.unpack, UnpackedFloat.unpack]
  simp only [← mantissa_eq, ← exponent_eq, ← sign_eq, isTop, isZero, bias, beq_iff_eq]
  split
  · split <;> rfl
  · split
    · rename_i bottom
      split
      · rename_i empty
        simp [fields?, isNegative_ofBitVec, empty]
      · simp [fields?, isNegative_ofBitVec, bottom]
    · simp [fields?, isNegative_ofBitVec, toNat_one_append, Nat.add_comm]

end UnpackedFloat

/-! ## Floats -/

/-- The exact value of a float; NaN has none. -/
noncomputable def exactValue? (x : Float) : Option EReal := UnpackedFloat.value? x.toModel.unpack

section Floats

variable {x y : Float}

theorem isNaN_iff : x.isNaN = true ↔ exactValue? x = none := UnpackedFloat.isNaN_iff

theorem isFinite_iff : x.isFinite = true ↔ ∃ r : ℝ, exactValue? x = some r :=
  UnpackedFloat.isFinite_iff

theorem comparesAs_exactValue {a b : EReal} (valued : exactValue? x = some a)
    (valuedOther : exactValue? y = some b) :
    UnpackedFloat.ComparesAs x.toModel.unpack y.toModel.unpack a b :=
  UnpackedFloat.comparesAs_value (UnpackedFloat.canonical_unpack _)
    (UnpackedFloat.canonical_unpack _) valued valuedOther

theorem float_lt_iff : x < y ↔ ∃ a b, exactValue? x = some a ∧ exactValue? y = some b ∧ a < b := by
  have decided : x < y ↔ (x.toModel.unpack.compare y.toModel.unpack == some .lt) = true :=
    decide_eq_true_iff
  rw [decided, beq_iff_eq]
  cases valued : exactValue? x with
  | none => simp [UnpackedFloat.compare_eq_none (.inl valued)]
  | some a =>
      cases valuedOther : exactValue? y with
      | none => simp [UnpackedFloat.compare_eq_none (.inr valuedOther)]
      | some b =>
          rcases comparesAs_exactValue valued valuedOther with ⟨order, compared, compares⟩
          rw [compared, Option.some_inj, compares.eq_lt]
          simp

theorem float_le_iff : x ≤ y ↔ ∃ a b, exactValue? x = some a ∧ exactValue? y = some b ∧ a ≤ b := by
  have decided : x ≤ y ↔ (x.toModel.unpack.compare y.toModel.unpack).any (·.isLE) = true :=
    decide_eq_true_iff
  rw [decided]
  cases valued : exactValue? x with
  | none => simp [UnpackedFloat.compare_eq_none (.inl valued)]
  | some a =>
      cases valuedOther : exactValue? y with
      | none => simp [UnpackedFloat.compare_eq_none (.inr valuedOther)]
      | some b =>
          rcases comparesAs_exactValue valued valuedOther with ⟨order, compared, compares⟩
          rw [compared, Option.any_some, Ordering.isLE_iff_ne_gt, ← Ne, compares.ne_gt]
          simp

end Floats

/-! ## Integers beside a value -/

/-- The nearest integer; a half goes away from zero. -/
noncomputable def roundAway (r : ℝ) : Int := if r < 0 then -round (-r) else round r

theorem floor_le_round (r : ℝ) : ⌊r⌋ ≤ round r := by
  rw [round_eq]
  exact Int.floor_mono (by linarith)

theorem round_le_ceil (r : ℝ) : round r ≤ ⌈r⌉ := by
  rw [round_eq, ← Int.lt_add_one_iff, Int.floor_lt]
  have above := Int.le_ceil r
  push_cast
  linarith

theorem floor_le_roundAway (r : ℝ) : ⌊r⌋ ≤ roundAway r := by
  rw [roundAway]
  split
  · have other := round_le_ceil (-r)
    rw [Int.ceil_neg] at other
    omega
  · exact floor_le_round r

theorem roundAway_le_ceil (r : ℝ) : roundAway r ≤ ⌈r⌉ := by
  rw [roundAway]
  split
  · have other := floor_le_round (-r)
    rw [Int.floor_neg] at other
    omega
  · exact round_le_ceil r

theorem round_intCast_div_natCast (n : Int) {d : Nat} (positive : 0 < d) :
    round ((n : ℝ) / d) = (2 * n + d) / (2 * d) := by
  have doubled : (n : ℝ) / d + 1 / 2 = ((2 * n + d : Int) : ℝ) / (2 * d : Nat) := by
    have nonzero : (d : ℝ) ≠ 0 := by exact_mod_cast positive.ne'
    push_cast
    field_simp
  rw [round_eq, doubled, Int.floor_div_natCast, Int.floor_intCast]
  norm_cast

namespace Binary64

/-- The exact value. -/
noncomputable def toReal (x : Binary64) : ℝ := x.fraction.1 / x.fraction.2

theorem toReal_mk (negative : Bool) (mantissa : Nat) (exponent : Int) :
    toReal ⟨negative, mantissa, exponent⟩ =
      if negative then -UnpackedFloat.magnitude mantissa exponent
      else UnpackedFloat.magnitude mantissa exponent := by
  cases exponent with
  | ofNat bits => cases negative <;> simp [toReal, fraction, UnpackedFloat.magnitude]
  | negSucc bits =>
      cases negative <;>
        simp [toReal, fraction, UnpackedFloat.magnitude, zpow_negSucc, div_eq_mul_inv]

variable {x : Binary64}

theorem floor_eq : x.floor = ⌊x.toReal⌋ := by
  rw [floor, toReal, Int.floor_div_natCast, Int.floor_intCast,
    Int.fdiv_eq_ediv_of_nonneg _ (Int.natCast_nonneg _)]

theorem ceil_eq : x.ceil = ⌈x.toReal⌉ := by
  have negated : -x.toReal = ((-x.fraction.1 : Int) : ℝ) / x.fraction.2 := by
    rw [toReal, Int.cast_neg, neg_div]
  rw [ceil, Int.fdiv_eq_ediv_of_nonneg _ (Int.natCast_nonneg _), ← neg_neg x.toReal, Int.ceil_neg,
    negated, Int.floor_div_natCast, Int.floor_intCast]

theorem round_eq : x.round = roundAway x.toReal := by
  have positive : (0 : ℝ) < x.fraction.2 := by exact_mod_cast x.fraction_pos
  have negative : x.toReal < 0 ↔ x.fraction.1 < 0 := by
    rw [toReal, div_lt_iff₀ positive, zero_mul]
    exact_mod_cast Iff.rfl
  simp only [round, roundAway, negative]
  split
  · rename_i below
    have magnitude : (x.fraction.1.natAbs : Int) = -x.fraction.1 := by omega
    rw [toReal, ← neg_div, ← Int.cast_neg, round_intCast_div_natCast _ x.fraction_pos, magnitude]
  · rename_i above
    have magnitude : (x.fraction.1.natAbs : Int) = x.fraction.1 := by omega
    rw [toReal, round_intCast_div_natCast _ x.fraction_pos, magnitude]

end Binary64

variable {x : Float} {value : Binary64}

theorem exactValue?_of_ofFloat? (read : Binary64.ofFloat? x = some value) :
    exactValue? x = some (value.toReal : EReal) := by
  rw [← UnpackedFloat.fields?_unpack] at read
  rw [exactValue?]
  cases unpacked : x.toModel.unpack with
  | notANumber => simp [unpacked, UnpackedFloat.fields?] at read
  | infinity sign => simp [unpacked, UnpackedFloat.fields?] at read
  | zero sign =>
      rw [unpacked] at read
      cases read
      rw [Binary64.toReal_mk]
      simp [UnpackedFloat.value?, UnpackedFloat.magnitude]
  | finite sign mantissa exponent positive =>
      rw [unpacked] at read
      cases read
      rw [Binary64.toReal_mk]
      cases sign <;> rfl

/-- What has no fields is NaN or infinite. -/
theorem exactValue?_of_ofFloat?_eq_none (unread : Binary64.ofFloat? x = none) :
    exactValue? x = none ∨ exactValue? x = some ⊤ ∨ exactValue? x = some ⊥ := by
  rw [← UnpackedFloat.fields?_unpack] at unread
  rw [exactValue?]
  cases unpacked : x.toModel.unpack with
  | notANumber => exact .inl rfl
  | infinity sign =>
      cases sign
      · exact .inr (.inr rfl)
      · exact .inr (.inl rfl)
  | _ => simp [unpacked, UnpackedFloat.fields?] at unread

end ApiStub
