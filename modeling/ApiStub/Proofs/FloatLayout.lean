import ApiStub.Decimal.Binary64
import Mathlib

/-!
# Normal floats and their bits

A normal float is laid out as a sign bit, 11 bits of a biased exponent and the 52 low bits of a
mantissa of 53. Packing such a float and unpacking it again gives it back, and `Binary64.ofFloat?`
reads the same sign, mantissa and exponent off the bits. From the three fields it can be told when
a float is an integer exactly; rounding such a float to an integer changes nothing.
-/

namespace ApiStub

open Float.Model (Format UnpackedFloat)
open Float.Model.UnpackedFloat (Sign packComponents)

/-! ## Integers among the exact values -/

namespace Binary64

/-- The exact value is the integer. -/
def IsInteger (x : Binary64) (n : Int) : Prop := x.fraction.1 = n * x.fraction.2

theorem fraction_pos (x : Binary64) : 0 < x.fraction.2 := by
  unfold fraction
  dsimp only
  split <;> positivity

variable {x : Binary64} {n : Int}

theorem IsInteger.floor_eq (integer : x.IsInteger n) : x.floor = n := by
  rw [floor, integer]
  exact Int.mul_fdiv_cancel n (by exact_mod_cast x.fraction_pos.ne')

theorem IsInteger.ceil_eq (integer : x.IsInteger n) : x.ceil = n := by
  rw [ceil, integer, ← Int.neg_mul, Int.mul_fdiv_cancel _ (by exact_mod_cast x.fraction_pos.ne'),
    Int.neg_neg]

theorem isInteger_zero (negative : Bool) (exponent : Int) :
    IsInteger ⟨negative, 0, exponent⟩ 0 := by
  cases exponent <;> simp [IsInteger, fraction]

/-- Powers of two below the point cancel when the value is an integer. -/
theorem isInteger_of_scaled (negative : Bool) {mantissa n : Nat} {exponent : Int}
    (least : -52 ≤ exponent) (scaled : mantissa * 2 ^ (exponent + 52).toNat = n * 2 ^ 52) :
    IsInteger ⟨negative, mantissa, exponent⟩ (if negative then -n else n) := by
  rcases exponent with bits | bits
  · have shift : (Int.ofNat bits + 52).toNat = bits + 52 := by simp; omega
    rw [shift, pow_add, ← Nat.mul_assoc] at scaled
    have whole := Nat.mul_right_cancel (Nat.two_pow_pos 52) scaled
    cases negative <;> simp [IsInteger, fraction, ← whole]
  · have shift : (Int.negSucc bits + 52).toNat = 52 - (bits + 1) := by omega
    have split : 52 = bits + 1 + (52 - (bits + 1)) := by omega
    rw [shift, split, pow_add, ← Nat.mul_assoc, ← split] at scaled
    have whole := Nat.mul_right_cancel (Nat.two_pow_pos _) scaled
    cases negative <;> simp [IsInteger, fraction, whole]

/-- What has an exact value is a number. -/
theorem isNaN_of_ofFloat? {x : Float} {value : Binary64}
    (read : ofFloat? x = some value) : x.isNaN = false := by
  have biased : x.toBits.toNat / 2 ^ 52 % 2 ^ 11 ≠ 2047 := by
    intro top
    simp only [ofFloat?, top] at read
    cases read
  change x.toModel.unpack.isNaN = false
  rw [Float.Model.unpack, Float.Model.UnpackedFloat.unpack]
  simp only []
  rw [if_neg]
  · split
    · split <;> rfl
    · rfl
  · intro top
    have field := congrArg BitVec.toNat top
    simp [Float.Model.UnpackedFloat.unpackExponent, BitVec.extractLsb_toNat,
      Nat.shiftRight_eq_div_pow] at field
    exact biased field

end Binary64

/-! ## Packing -/

namespace UnpackedFloat

theorem toNat_packComponents (sign : Sign) (exponent : BitVec 11) (mantissa : BitVec 52) :
    (packComponents Format.binary64 sign exponent mantissa).toNat =
      (sign.toBitVec.toNat * 2 ^ 11 + exponent.toNat) * 2 ^ 52 + mantissa.toNat := by
  change ((sign.toBitVec ++ exponent) ++ mantissa).toNat = _
  rw [BitVec.toNat_append, BitVec.toNat_append, ← Nat.shiftLeft_add_eq_or_of_lt mantissa.isLt,
    ← Nat.shiftLeft_add_eq_or_of_lt exponent.isLt, Nat.shiftLeft_eq, Nat.shiftLeft_eq]

theorem unpackSign_packComponents (sign : Sign) (exponent : BitVec 11) (mantissa : BitVec 52) :
    UnpackedFloat.unpackSign (packComponents Format.binary64 sign exponent mantissa) =
      sign.toBitVec := by
  apply BitVec.eq_of_toNat_eq
  have exponent_lt := exponent.isLt
  have mantissa_lt := mantissa.isLt
  have sign_lt := sign.toBitVec.isLt
  simp only [UnpackedFloat.unpackSign, BitVec.toNat_cast, BitVec.extractLsb_toNat,
    Nat.shiftRight_eq_div_pow, toNat_packComponents]
  norm_num
  omega

theorem ofBitVec_toBitVec (sign : Sign) : Sign.ofBitVec sign.toBitVec = sign := by
  cases sign <;> rfl

section Normal

variable {sign : Sign} {mantissa : Nat} {exponent : Int} {positive : 0 < mantissa}

theorem pack_finite (length : mantissa.log2 = 52) (greatest : exponent ≤ 971) :
    UnpackedFloat.pack Format.binary64 (.finite sign mantissa exponent positive) =
      packComponents Format.binary64 sign
        (BitVec.ofNat 11 (exponent + 1075).toNat) (BitVec.ofNat 52 mantissa) := by
  have biased : (exponent + Format.binary64.exponentBias +
      Format.binary64.mantissaBitsWithoutImplicit).toNat = (exponent + 1075).toNat := by
    simp [Format.exponentBias]
    omega
  simp only [UnpackedFloat.pack, biased]
  rw [if_neg (by simp; omega), if_pos (by simp [Format.mantissaBits, length])]

theorem toNat_biased (least : -1074 ≤ exponent) (greatest : exponent ≤ 971) :
    (BitVec.ofNat 11 (exponent + 1075).toNat).toNat = (exponent + 1075).toNat := by
  rw [BitVec.toNat_ofNat, Nat.mod_eq_of_lt (by omega)]

theorem unpack_pack_finite (length : mantissa.log2 = 52) (least : -1074 ≤ exponent)
    (greatest : exponent ≤ 971) :
    UnpackedFloat.unpack Format.binary64
        (UnpackedFloat.pack Format.binary64 (.finite sign mantissa exponent positive)) =
      .finite sign mantissa exponent positive := by
  have biased := toNat_biased least greatest
  have notTop : BitVec.ofNat 11 (exponent + 1075).toNat ≠ -1#11 := by
    intro top
    rw [top] at biased
    simp at biased
    omega
  have notBottom : BitVec.ofNat 11 (exponent + 1075).toNat ≠ 0#11 := by
    intro bottom
    rw [bottom] at biased
    simp at biased
    omega
  -- The bit that is not stored is put back in front of the others.
  have whole : (1#1 ++ BitVec.ofNat 52 mantissa).toNat = mantissa := by
    have bounds := (Nat.log2_eq_iff positive.ne').mp length
    rw [BitVec.toNat_append, ← Nat.shiftLeft_add_eq_or_of_lt (BitVec.isLt _),
      BitVec.toNat_ofNat, Nat.shiftLeft_eq]
    norm_num at *
    omega
  rw [pack_finite length greatest]
  simp only [UnpackedFloat.unpack, UnpackedFloat.unpackExponent_packComponents,
    UnpackedFloat.unpackMantissa_packComponents, unpackSign_packComponents, ofBitVec_toBitVec,
    biased]
  rw [if_neg notTop, if_neg notBottom]
  simp only [whole, UnpackedFloat.finite.injEq, true_and]
  simp [Format.exponentBias]
  omega

end Normal

/-- The float that an unpacked one is packed into. -/
def toFloat (x : UnpackedFloat) : Float := .ofModel (.pack x)

/-- The sign bit is set. -/
def isNegative : Sign → Bool
  | .negative => true
  | .positive => false

theorem ofFloat?_toFloat {sign : Sign} {mantissa : Nat} {exponent : Int} {positive : 0 < mantissa}
    (length : mantissa.log2 = 52) (least : -1074 ≤ exponent) (greatest : exponent ≤ 971) :
    Binary64.ofFloat? (toFloat (.finite sign mantissa exponent positive)) =
      some ⟨isNegative sign, mantissa, exponent⟩ := by
  have bounds := (Nat.log2_eq_iff positive.ne').mp length
  have sign_lt := sign.toBitVec.isLt
  have bits : (toFloat (.finite sign mantissa exponent positive)).toBits.toNat =
      (sign.toBitVec.toNat * 2 ^ 11 + (exponent + 1075).toNat) * 2 ^ 52 + (mantissa - 2 ^ 52) := by
    change (UnpackedFloat.pack Format.binary64 (.finite sign mantissa exponent positive)).toNat = _
    rw [pack_finite length greatest, toNat_packComponents, toNat_biased least greatest,
      BitVec.toNat_ofNat]
    omega
  generalize toFloat (.finite sign mantissa exponent positive) = x at bits
  have fraction : x.toBits.toNat % 2 ^ 52 = mantissa - 2 ^ 52 := by omega
  have biased : x.toBits.toNat / 2 ^ 52 % 2 ^ 11 = (exponent + 1075).toNat := by omega
  have signBit : x.toBits.toNat / 2 ^ 63 = sign.toBitVec.toNat := by omega
  simp only [Binary64.ofFloat?, fraction, biased, signBit]
  rw [if_neg (by simp; omega), if_neg (by simp; omega)]
  cases sign <;> simp [isNegative, Sign.toBitVec] <;> omega

/-! ## Floats that stand for integers -/

/-- An unpacked float in normal form that is `n` exactly, with a sign. -/
inductive Stands (sign : Sign) (n : Nat) : UnpackedFloat → Prop
  | intro {mantissa : Nat} {exponent : Int} {positive : 0 < mantissa}
      (length : mantissa.log2 = 52) (least : -52 ≤ exponent) (greatest : exponent ≤ 971)
      (scaled : mantissa * 2 ^ (exponent + 52).toNat = n * 2 ^ 52) :
      Stands sign n (.finite sign mantissa exponent positive)

namespace Stands

variable {sign : Sign} {n : Nat} {x : UnpackedFloat}

theorem unpack_toFloat (stands : Stands sign n x) : (toFloat x).toModel.unpack = x := by
  rcases stands with ⟨length, least, greatest, _⟩
  exact unpack_pack_finite length (by omega) greatest

theorem neg (stands : Stands sign n x) : Stands (-sign) n x.neg := by
  rcases stands with ⟨length, least, greatest, scaled⟩
  exact .intro length least greatest scaled

theorem ofFloat?_toFloat (stands : Stands sign n x) : ∃ value,
    Binary64.ofFloat? (toFloat x) = some value ∧ value.IsInteger (sign.apply n) := by
  rcases stands with ⟨length, least, greatest, scaled⟩
  refine ⟨_, UnpackedFloat.ofFloat?_toFloat length (by omega) greatest, ?_⟩
  have integer := Binary64.isInteger_of_scaled (isNegative sign) least scaled
  cases sign <;> exact integer

end Stands

end UnpackedFloat

end ApiStub
