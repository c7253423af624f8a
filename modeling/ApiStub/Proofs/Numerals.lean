import ApiStub.Decimal.Binary64
import ApiStub.Mock.Calendar
import ApiStub.Text.Digits
import Mathlib

/-!
# Numerals

The digits that are written for a number spell it in small letters and without a needless zero in
front. A number that is filled up with zeros keeps its value and takes as many places as are asked
for, if it fits.
-/

namespace ApiStub.Text

/-- The digits spell a number, in small letters and without a needless zero in front. -/
structure Spells (base : Nat) (digits : List Char) (n : Nat) : Prop where
  value : ofBase? base digits = some n
  small : ∀ c ∈ digits, c.isUpper = false
  leading : digits.head? = some '0' → digits = ['0']

/-- So many digits, which spell a decimal number. -/
structure FixedWidth (width : Nat) (digits : List Char) (n : Nat) : Prop where
  length : digits.length = width
  value : ofBase? 10 digits = some n

/-- The number after one more digit. -/
def addDigit? (base number : Nat) (c : Char) : Option Nat :=
  ((hexDigit? c).filter (· < base)).map (number * base + ·)

theorem ofBase?_of_ne_nil {base : Nat} {digits : List Char} (nonempty : digits ≠ []) :
    ofBase? base digits = digits.foldlM (addDigit? base) 0 := by
  rw [ofBase?, if_neg (by simpa using nonempty)]
  rfl

theorem hexDigit?_digitChar : ∀ digit < 16, hexDigit? (Nat.digitChar digit) = some digit := by
  decide

theorem isUpper_digitChar : ∀ digit < 16, (Nat.digitChar digit).isUpper = false := by
  decide

theorem digitChar_ne_zero : ∀ digit < 16, digit ≠ 0 → Nat.digitChar digit ≠ '0' := by
  decide

theorem addDigit?_digitChar {base digit : Nat} (number : Nat) (isDigit : digit < base)
    (few : base ≤ 16) :
    addDigit? base number (Nat.digitChar digit) = some (number * base + digit) := by
  simp [addDigit?, hexDigit?_digitChar digit (by omega), Option.filter, isDigit]

/-- What holds of all digits and is kept by one more holds of the digits of a number. -/
theorem toDigits_induction {base : Nat} (some_digits : 1 < base) {p : Nat → List Char → Prop}
    (digit : ∀ n < base, p n [Nat.digitChar n])
    (more : ∀ n, base ≤ n → p (n / base) (Nat.toDigits base (n / base)) →
      p n (Nat.toDigits base (n / base) ++ [Nat.digitChar (n % base)])) (n : Nat) :
    p n (Nat.toDigits base n) := by
  induction n using Nat.strongRecOn with
  | ind n ih =>
      rcases Nat.lt_or_ge n base with small | large
      · rw [Nat.toDigits_of_lt_base small]
        exact digit n small
      · rw [Nat.toDigits_of_base_le some_digits large]
        exact more n large (ih _ (Nat.div_lt_self (by omega) some_digits))

section Written

variable {base : Nat} (some_digits : 1 < base) (few : base ≤ 16)

include some_digits few

theorem ofBase?_toDigits (n : Nat) : ofBase? base (Nat.toDigits base n) = some n := by
  rw [ofBase?_of_ne_nil Nat.toDigits_ne_nil]
  refine toDigits_induction (p := fun n digits => digits.foldlM (addDigit? base) 0 = some n)
    some_digits ?_ ?_ n
  · intro n small
    simp [addDigit?_digitChar 0 small few]
  · intro n large ih
    have last := Nat.mod_lt n (Nat.zero_lt_of_lt some_digits)
    rw [List.foldlM_append, ih]
    simp [addDigit?_digitChar _ last few, Nat.div_add_mod']

theorem isUpper_of_mem_toDigits (n : Nat) : ∀ c ∈ Nat.toDigits base n, c.isUpper = false := by
  refine toDigits_induction (p := fun _ digits => ∀ c ∈ digits, c.isUpper = false)
    some_digits ?_ ?_ n
  · intro n small c mem
    rw [List.mem_singleton.mp mem]
    exact isUpper_digitChar n (by omega)
  · intro n large ih c mem
    have last := Nat.mod_lt n (Nat.zero_lt_of_lt some_digits)
    rcases List.mem_append.mp mem with earlier | final
    · exact ih c earlier
    · rw [List.mem_singleton.mp final]
      exact isUpper_digitChar _ (by omega)

theorem isSome_hexDigit?_of_mem_toDigits (n : Nat) :
    ∀ c ∈ Nat.toDigits base n, (hexDigit? c).isSome = true := by
  refine toDigits_induction (p := fun _ digits => ∀ c ∈ digits, (hexDigit? c).isSome = true)
    some_digits ?_ ?_ n
  · intro n small c mem
    rw [List.mem_singleton.mp mem, hexDigit?_digitChar n (by omega)]
    rfl
  · intro n large ih c mem
    have last := Nat.mod_lt n (Nat.zero_lt_of_lt some_digits)
    rcases List.mem_append.mp mem with earlier | final
    · exact ih c earlier
    · rw [List.mem_singleton.mp final, hexDigit?_digitChar _ (by omega)]
      rfl

theorem eq_zero_of_head?_toDigits (n : Nat) :
    (Nat.toDigits base n).head? = some '0' → n = 0 := by
  refine toDigits_induction (p := fun n digits => digits.head? = some '0' → n = 0)
    some_digits ?_ ?_ n
  · intro n small leading
    by_contra positive
    exact digitChar_ne_zero n (by omega) positive (Option.some.inj leading)
  · intro n large ih leading
    rw [List.head?_append_of_ne_nil _ Nat.toDigits_ne_nil] at leading
    have positive := Nat.div_pos large (Nat.zero_lt_of_lt some_digits)
    have zero := ih leading
    omega

theorem spells_toDigits (n : Nat) : Spells base (Nat.toDigits base n) n where
  value := ofBase?_toDigits some_digits few n
  small := isUpper_of_mem_toDigits some_digits few n
  leading := by
    intro leading
    rw [eq_zero_of_head?_toDigits some_digits few n leading]
    exact Nat.toDigits_zero base

end Written

/-! ## Filled up with zeros -/

theorem ofBase?_zeros (count : Nat) {digits : List Char} (nonempty : digits ≠ []) :
    ofBase? 10 (List.replicate count '0' ++ digits) = ofBase? 10 digits := by
  rw [ofBase?_of_ne_nil (List.append_ne_nil_of_right_ne_nil _ nonempty),
    ofBase?_of_ne_nil nonempty]
  induction count with
  | zero => rfl
  | succ count ih =>
      rw [List.replicate_succ, List.cons_append, List.foldlM_cons]
      exact ih

theorem fixedWidth_padded {width n : Nat} (some_places : 0 < width) (fits : n < 10 ^ width) :
    FixedWidth width (Mock.padded width n).toList n where
  length := by
    have length_le := (Nat.length_toDigits_le_iff (by decide) some_places).mpr fits
    simp [Mock.padded, length_le]
  value := by
    rw [Mock.padded, String.toList_ofList, ofBase?_zeros _ Nat.toDigits_ne_nil]
    exact ofBase?_toDigits (by decide) (by decide) n

end ApiStub.Text
