import ApiStub.Decimal.Binary64
import Mathlib

/-!
# The two zeros

A float that compares equal to zero is one of two bit patterns. Comparison unpacks a float into
sign, mantissa and exponent, while `Binary64.ofFloat?` reads the fields off the bits, so the fields
of an unpacked zero are traced back to the bits first.
-/

namespace ApiStub

open Float.Model (Format UnpackedFloat)

/-- Only the two zeros compare equal to zero, and neither has a bit below its sign. -/
theorem UnpackedFloat.unpack_eq_zero {bits : BitVec 64} {sign : UnpackedFloat.Sign}
    (unpacked : UnpackedFloat.unpack Format.binary64 bits = .zero sign) :
    bits.toNat / 2 ^ 52 % 2 ^ 11 = 0 ∧ bits.toNat % 2 ^ 52 = 0 := by
  simp only [UnpackedFloat.unpack] at unpacked
  split at unpacked
  · split at unpacked <;> cases unpacked
  · split at unpacked
    · split at unpacked
      · rename_i exponent mantissa
        simp only [UnpackedFloat.unpackExponent, UnpackedFloat.unpackMantissa] at exponent mantissa
        have exponent := congrArg BitVec.toNat exponent
        have mantissa := congrArg BitVec.toNat mantissa
        simp [BitVec.extractLsb_toNat, Nat.shiftRight_eq_div_pow] at exponent mantissa
        exact ⟨exponent, mantissa⟩
      · cases unpacked
    · cases unpacked

theorem UnpackedFloat.eq_zero_of_compare {number : UnpackedFloat}
    (equal : number.compare (.zero .positive) = some .eq) : ∃ sign, number = .zero sign := by
  cases number with
  | zero sign => exact ⟨sign, rfl⟩
  | notANumber => simp [UnpackedFloat.compare] at equal
  | infinity sign => cases sign <;> simp [UnpackedFloat.compare] at equal
  | finite sign mantissa exponent positive =>
      cases sign <;> simp [UnpackedFloat.compare] at equal

namespace Binary64

theorem unpack_of_beq_zero {x : Float} (zero : (x == 0.0) = true) :
    ∃ sign, x.toModel.unpack = .zero sign := by
  change x.toModel.unpack.beq (.zero .positive) = true at zero
  exact UnpackedFloat.eq_zero_of_compare (by simpa [UnpackedFloat.beq] using zero)

theorem beq_one_of_beq_zero {x : Float} (zero : (x == 0.0) = true) : (x == 1.0) = false := by
  rcases unpack_of_beq_zero zero with ⟨sign, unpacked⟩
  change x.toModel.unpack.beq (Float.toModel 1.0).unpack = false
  rw [unpacked]
  cases sign <;> rfl

theorem ofFloat?_of_beq_zero {x : Float} (zero : (x == 0.0) = true) :
    ∃ negative, ofFloat? x = some ⟨negative, 0, -1074⟩ := by
  rcases unpack_of_beq_zero zero with ⟨sign, unpacked⟩
  have bits := UnpackedFloat.unpack_eq_zero unpacked
  change x.toBits.toNat / 2 ^ 52 % 2 ^ 11 = 0 ∧ x.toBits.toNat % 2 ^ 52 = 0 at bits
  simp only [ofFloat?, bits.1, bits.2]
  exact ⟨_, rfl⟩

end Binary64

end ApiStub
