import ApiStub.Decimal.Binary64
import Mathlib.Tactic.Ring

/-!
# Integers rounded to 53 significant bits

`nearest n` is the integer that a conversion to a float leaves of `n`: the nearest one of at most
53 significant bits, and of two as near the one with the even significand. It keeps the order and
every integer that has no more bits than that, and it moves no other by more than half a unit of
its last place.
-/

namespace ApiStub

/-! ## Quotients by a power of two -/

/-- The quotient by `2 ^ bits`, rounded; a half goes to the even neighbour. -/
def roundedShift (n bits : Nat) : Nat :=
  let quotient := n / 2 ^ bits
  let double := 2 * (n % 2 ^ bits)
  if double < 2 ^ bits then quotient
  else if 2 ^ bits < double then quotient + 1
  else quotient + quotient % 2

theorem roundedShift_zero (n : Nat) : roundedShift n 0 = n := by
  simp [roundedShift, Nat.mod_one]

theorem roundedShift_mul_two_pow (n bits : Nat) : roundedShift (n * 2 ^ bits) bits = n := by
  simp [roundedShift, Nat.mul_div_cancel _ (Nat.two_pow_pos bits)]

theorem roundedShift_add (n bits extra : Nat) :
    roundedShift (n * 2 ^ extra) (bits + extra) = roundedShift n bits := by
  have pos := Nat.two_pow_pos extra
  have double : 2 * (n * 2 ^ extra % (2 ^ bits * 2 ^ extra)) =
      2 * (n % 2 ^ bits) * 2 ^ extra := by
    rw [Nat.mul_mod_mul_right, Nat.mul_assoc]
  simp only [roundedShift, pow_add, Nat.mul_div_mul_right _ _ pos, double,
    Nat.mul_lt_mul_right pos]

theorem roundedShift_bounds (n bits : Nat) :
    n / 2 ^ bits ≤ roundedShift n bits ∧ roundedShift n bits ≤ n / 2 ^ bits + 1 := by
  simp only [roundedShift]
  split
  · omega
  · split <;> omega

/-- A rounded quotient is off by half a divisor at most. -/
theorem roundedShift_error (n bits : Nat) :
    2 * (roundedShift n bits * 2 ^ bits) ≤ 2 * n + 2 ^ bits ∧
      2 * n ≤ 2 * (roundedShift n bits * 2 ^ bits) + 2 ^ bits := by
  have parts := Nat.div_add_mod' n (2 ^ bits)
  have below := Nat.mod_lt n (Nat.two_pow_pos bits)
  simp only [roundedShift]
  generalize n % 2 ^ bits = rest at *
  generalize n / 2 ^ bits = quotient at *
  split
  · omega
  · split
    · rw [Nat.add_mul]
      omega
    · rcases Nat.mod_two_eq_zero_or_one quotient with even | odd
      · rw [even, Nat.add_zero]
        omega
      · rw [odd, Nat.add_mul]
        omega

theorem roundedShift_mono {n m : Nat} (bits : Nat) (le : n ≤ m) :
    roundedShift n bits ≤ roundedShift m bits := by
  have quotients : n / 2 ^ bits ≤ m / 2 ^ bits := Nat.div_le_div_right le
  rcases Nat.lt_or_eq_of_le quotients with lt | same
  · exact ((roundedShift_bounds n bits).2.trans lt).trans (roundedShift_bounds m bits).1
  · have first := Nat.div_add_mod' n (2 ^ bits)
    have second := Nat.div_add_mod' m (2 ^ bits)
    rw [← same] at second
    simp only [roundedShift, ← same]
    generalize n / 2 ^ bits = quotient at *
    split
    · split
      · rfl
      · split <;> omega
    · split
      · rw [if_neg (by omega), if_pos (by omega)]
      · rw [if_neg (by omega)]
        split <;> omega

/-- No multiple of the divisor is nearer than the rounded quotient. -/
theorem roundedShift_closest (n bits other : Nat) :
    ((roundedShift n bits * 2 ^ bits : Nat) - n : Int).natAbs ≤
      ((other * 2 ^ bits : Nat) - n : Int).natAbs := by
  have error := roundedShift_error n bits
  rcases Nat.lt_trichotomy other (roundedShift n bits) with lt | rfl | gt
  · have apart : (other + 1) * 2 ^ bits ≤ roundedShift n bits * 2 ^ bits :=
      Nat.mul_le_mul_right _ lt
    rw [Nat.add_mul] at apart
    omega
  · exact le_rfl
  · have apart : (roundedShift n bits + 1) * 2 ^ bits ≤ other * 2 ^ bits :=
      Nat.mul_le_mul_right _ gt
    rw [Nat.add_mul] at apart
    omega

/-- Shifted to its leading 53 bits, a number keeps that length or becomes the next power of two. -/
theorem roundedShift_wide {n : Nat} (wide : 52 ≤ n.log2) :
    2 ^ 52 ≤ roundedShift n (n.log2 - 52) ∧ roundedShift n (n.log2 - 52) ≤ 2 ^ 53 := by
  have nonzero : n ≠ 0 := by
    rintro rfl
    simp at wide
  have bounds := roundedShift_bounds n (n.log2 - 52)
  have pos := Nat.two_pow_pos (n.log2 - 52)
  have least : 2 ^ 52 ≤ n / 2 ^ (n.log2 - 52) := by
    rw [Nat.le_div_iff_mul_le pos, ← pow_add, Nat.add_sub_of_le wide]
    exact Nat.log2_self_le nonzero
  have greatest : n / 2 ^ (n.log2 - 52) < 2 ^ 53 := by
    rw [Nat.div_lt_iff_lt_mul pos, ← pow_add, show 53 + (n.log2 - 52) = n.log2 + 1 by omega]
    exact Nat.lt_log2_self
  omega

/-! ## Natural numbers -/

/-- The nearest natural number of at most 53 significant bits. -/
def nearestNat (n : Nat) : Nat := roundedShift n (n.log2 - 52) * 2 ^ (n.log2 - 52)

/-- A natural number of at most 53 significant bits. -/
def IsShort (n : Nat) : Prop :=
  ∃ significand bits, significand ≤ 2 ^ 53 ∧ n = significand * 2 ^ bits

theorem nearestNat_of_log2_le {n : Nat} (length : n.log2 ≤ 52) : nearestNat n = n := by
  rw [nearestNat, Nat.sub_eq_zero_of_le length, roundedShift_zero, pow_zero, Nat.mul_one]

/-- From the leading bit of `n` on, numbers of 53 significant bits are multiples of the unit that
`n` is rounded to. -/
theorem IsShort.exists_multiple {n m : Nat} (short : IsShort m) (above : 2 ^ n.log2 ≤ m) :
    ∃ quotient, m = quotient * 2 ^ (n.log2 - 52) := by
  rcases short with ⟨significand, bits, fits, rfl⟩
  rcases Nat.lt_or_ge bits (n.log2 - 52) with low | high
  · have bound : significand * 2 ^ bits ≤ 2 ^ n.log2 := by
      calc significand * 2 ^ bits ≤ 2 ^ 53 * 2 ^ bits := Nat.mul_le_mul_right _ fits
        _ = 2 ^ (53 + bits) := (pow_add ..).symm
        _ ≤ 2 ^ n.log2 := Nat.pow_le_pow_right (by decide) (by omega)
    refine ⟨2 ^ 52, ?_⟩
    rw [Nat.le_antisymm bound above, ← pow_add]
    congr 1
    omega
  · refine ⟨significand * 2 ^ (bits - (n.log2 - 52)), ?_⟩
    rw [Nat.mul_assoc, ← pow_add, Nat.sub_add_cancel high]

theorem IsShort.nearestNat_eq {n : Nat} (short : IsShort n) : nearestNat n = n := by
  rcases Nat.eq_zero_or_pos n with rfl | positive
  · exact nearestNat_of_log2_le (by simp)
  · rcases short.exists_multiple (Nat.log2_self_le positive.ne') with ⟨quotient, multiple⟩
    rw [nearestNat]
    generalize n.log2 - 52 = bits at *
    rw [multiple, roundedShift_mul_two_pow]

theorem nearestNat_closest (n : Nat) {m : Nat} (short : IsShort m) :
    ((nearestNat n : Int) - n).natAbs ≤ ((m : Int) - n).natAbs := by
  rcases Nat.lt_or_ge 52 n.log2 with long | exact
  · have nonzero : n ≠ 0 := by
      rintro rfl
      simp at long
    have leading := Nat.log2_self_le nonzero
    rcases Nat.lt_or_ge m (2 ^ n.log2) with below | above
    · -- The leading bit of `n` is a multiple of the unit, and between `m` and `n`.
      have unit : 2 ^ 52 * 2 ^ (n.log2 - 52) = 2 ^ n.log2 := by
        rw [← pow_add, Nat.add_sub_of_le long.le]
      have closest := roundedShift_closest n (n.log2 - 52) (2 ^ 52)
      rw [unit] at closest
      exact closest.trans (by omega)
    · rcases short.exists_multiple above with ⟨other, rfl⟩
      exact roundedShift_closest n (n.log2 - 52) other
  · rw [nearestNat_of_log2_le exact]
    omega

theorem nearestNat_mono {n m : Nat} (le : n ≤ m) : nearestNat n ≤ nearestNat m := by
  rcases Nat.eq_zero_or_pos n with rfl | positive
  · rw [nearestNat_of_log2_le (by simp)]
    exact Nat.zero_le _
  have lengths : n.log2 ≤ m.log2 :=
    (Nat.le_log2 (by omega)).mpr ((Nat.log2_self_le positive.ne').trans le)
  rcases Nat.lt_or_ge 52 m.log2 with long | exact
  · rcases Nat.lt_or_eq_of_le lengths with shorter | same
    · -- The power of two between the leading bits separates the rounded numbers too.
      have upper : nearestNat n ≤ 2 ^ m.log2 := by
        rcases Nat.lt_or_ge 52 n.log2 with wide | exact
        · calc nearestNat n ≤ 2 ^ 53 * 2 ^ (n.log2 - 52) :=
                Nat.mul_le_mul_right _ (roundedShift_wide wide.le).2
            _ = 2 ^ (53 + (n.log2 - 52)) := (pow_add ..).symm
            _ ≤ 2 ^ m.log2 := Nat.pow_le_pow_right (by decide) (by omega)
        · rw [nearestNat_of_log2_le exact]
          exact Nat.lt_log2_self.le.trans (Nat.pow_le_pow_right (by decide) shorter)
      have lower : 2 ^ m.log2 ≤ nearestNat m := by
        calc 2 ^ m.log2 = 2 ^ 52 * 2 ^ (m.log2 - 52) := by
              rw [← pow_add, Nat.add_sub_of_le long.le]
          _ ≤ nearestNat m := Nat.mul_le_mul_right _ (roundedShift_wide long.le).1
      exact upper.trans lower
    · rw [nearestNat, nearestNat, same]
      exact Nat.mul_le_mul_right _ (roundedShift_mono _ le)
  · rw [nearestNat_of_log2_le exact, nearestNat_of_log2_le (by omega)]
    exact le

theorem nearestNat_error {n bits : Nat} (bound : n < 2 ^ (bits + 53)) :
    2 * nearestNat n ≤ 2 * n + 2 ^ bits ∧ 2 * n ≤ 2 * nearestNat n + 2 ^ bits := by
  have error := roundedShift_error n (n.log2 - 52)
  have unit : 2 ^ (n.log2 - 52) ≤ 2 ^ bits := by
    rcases Nat.eq_zero_or_pos n with rfl | positive
    · exact Nat.one_le_two_pow
    · have length := (Nat.log2_lt positive.ne').mpr bound
      exact Nat.pow_le_pow_right (by decide) (by omega)
  rw [← nearestNat] at error
  omega

/-! ## Integers -/

/-- The nearest integer of at most 53 significant bits. -/
def nearest : Int → Int
  | .ofNat n => nearestNat n
  | .negSucc n => -nearestNat (n + 1)

theorem nearest_natCast (n : Nat) : nearest n = nearestNat n := rfl

theorem nearest_neg_natCast (n : Nat) : nearest (-n) = -nearestNat n := by
  cases n <;> rfl

theorem nearest_mono {n m : Int} (le : n ≤ m) : nearest n ≤ nearest m := by
  rcases n.eq_nat_or_neg with ⟨k, rfl | rfl⟩ <;> rcases m.eq_nat_or_neg with ⟨l, rfl | rfl⟩
  · simp only [nearest_natCast]
    exact_mod_cast nearestNat_mono (by omega)
  · have zeros : k = 0 ∧ l = 0 := by omega
    simp [zeros]
  · simp only [nearest_natCast, nearest_neg_natCast]
    omega
  · simp only [nearest_neg_natCast]
    have magnitudes := nearestNat_mono (n := l) (m := k) (by omega)
    omega

theorem nearest_of_isShort {n : Int} (short : IsShort n.natAbs) : nearest n = n := by
  rcases n.eq_nat_or_neg with ⟨k, rfl | rfl⟩
  · rw [nearest_natCast, IsShort.nearestNat_eq (by simpa using short)]
  · rw [nearest_neg_natCast, IsShort.nearestNat_eq (by simpa using short)]

/-- No integer of at most 53 significant bits is nearer. -/
theorem nearest_closest (n : Int) {m : Int} (short : IsShort m.natAbs) :
    (nearest n - n).natAbs ≤ (m - n).natAbs := by
  rcases n.eq_nat_or_neg with ⟨k, rfl | rfl⟩
  · have closest := nearestNat_closest k short
    rw [nearest_natCast]
    omega
  · have closest := nearestNat_closest k short
    rw [nearest_neg_natCast]
    omega

/-- An integer of `bits` more bits than 53 is moved by half of `2 ^ bits` at most. -/
theorem nearest_error {n : Int} {bits : Nat} (bound : n.natAbs < 2 ^ (bits + 53)) :
    2 * (nearest n - n).natAbs ≤ 2 ^ bits := by
  rcases n.eq_nat_or_neg with ⟨k, rfl | rfl⟩
  · have error := nearestNat_error (n := k) (by simpa using bound)
    rw [nearest_natCast]
    omega
  · have error := nearestNat_error (n := k) (by simpa using bound)
    rw [nearest_neg_natCast]
    omega

end ApiStub
