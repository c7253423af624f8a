import ApiStub.Api.Source
import Mathlib.Data.List.Forall2
import Mathlib.Data.List.Induction
import Mathlib.Data.List.Lex
import Mathlib.Data.List.TakeWhile
import Mathlib.Data.Nat.Digits.Defs

/-!
# The version gate

Versions are compared as lists of numbers, in lexicographic order and with zeros after the shorter
one. `AtLeast` says so by padding both lists to one length; the comparison takes one component of
each list after the other and needs no padding, since a list that has come to its end goes on like
zeros.

A number that is too long for 64 bits counts as zero. So a version with such a component comes
before versions that it should come after, and a document may be refused for a version that is far
beyond the minimum. Of all other versions the gate keeps the order of the numbers.
-/

namespace ApiStub

namespace Text

/-- The number that decimal digits stand for, the last one counting ones. -/
def number (digits : List Char) : Nat := Nat.ofDigits 10 (digits.reverse.map digitValue)

theorem decimal_eq_number (digits : List Char) : decimal digits = number digits := by
  induction digits using List.reverseRecOn with
  | nil => rfl
  | append_singleton digits last ih =>
      rw [decimal, List.foldl_append, List.foldl_cons, List.foldl_nil, ← decimal, ih, number,
        number, List.reverse_append, List.reverse_singleton, List.singleton_append, List.map_cons,
        Nat.ofDigits_cons, Nat.mul_comm, Nat.add_comm]

theorem number_zeros (count : Nat) (digits : List Char) :
    number (List.replicate count '0' ++ digits) = number digits := by
  rw [number, number, List.reverse_append, List.map_append, Nat.ofDigits_append,
    List.reverse_replicate, List.map_replicate]
  have zeros : Nat.ofDigits 10 (List.replicate count (digitValue '0')) = 0 :=
    Nat.ofDigits_replicate_zero
  rw [zeros, Nat.mul_zero, Nat.add_zero]

end Text

namespace Api

/-! ## Lists of components -/

/-- With zeros after the shorter one, the first list is not before the second one in lexicographic
order. -/
def AtLeast (first second : List Nat) : Prop :=
  second.rightpad (max first.length second.length) 0 ≤
    first.rightpad (max first.length second.length) 0

theorem rightpad_succ (n : Nat) (components : List Nat) :
    components.rightpad (n + 1) 0 = components.headD 0 :: components.tail.rightpad n 0 := by
  cases components with
  | nil => simp [List.rightpad, List.replicate_succ]
  | cons a as => simp [List.rightpad]

/-- A list that has come to its end goes on like zeros. -/
theorem compareComponents_eq (first second : List Nat) :
    compareComponents first second =
      (compare (first.headD 0) (second.headD 0)).then
        (compareComponents first.tail second.tail) := by
  cases first with
  | nil =>
      cases second with
      | nil => rfl
      | cons b bs =>
          rcases Nat.eq_zero_or_pos b with rfl | positive
          · simp [compareComponents]
          · have before : compare 0 b = .lt := Nat.compare_eq_lt.mpr positive
            have nonzero : b ≠ 0 := Nat.ne_of_gt positive
            simp [compareComponents, before, nonzero]
  | cons a as =>
      cases second with
      | nil =>
          rcases Nat.eq_zero_or_pos a with rfl | positive
          · cases as with
            | nil => rfl
            | cons a as => simp [compareComponents]
          · have after : compare a 0 = .gt := Nat.compare_eq_gt.mpr positive
            have nonzero : a ≠ 0 := Nat.ne_of_gt positive
            simp [compareComponents, after, nonzero]
      | cons b bs => rfl

/-- The comparison is that of the padded lists, for every length that both fit in. -/
theorem compareComponents_eq_lt_iff {n : Nat} {first second : List Nat}
    (first_le : first.length ≤ n) (second_le : second.length ≤ n) :
    compareComponents first second = .lt ↔ first.rightpad n 0 < second.rightpad n 0 := by
  induction n generalizing first second with
  | zero =>
      rw [List.length_eq_zero_iff.mp (Nat.le_zero.mp first_le),
        List.length_eq_zero_iff.mp (Nat.le_zero.mp second_le)]
      simp [compareComponents, List.rightpad]
  | succ n ih =>
      have rest := @ih first.tail second.tail (by rw [List.length_tail]; omega)
        (by rw [List.length_tail]; omega)
      rw [compareComponents_eq, rightpad_succ, rightpad_succ, List.cons_lt_cons_iff,
        Ordering.then_eq_lt, rest, Nat.compare_eq_lt, Nat.compare_eq_eq]

theorem atLeast_iff {n : Nat} {first second : List Nat} (first_le : first.length ≤ n)
    (second_le : second.length ≤ n) :
    AtLeast first second ↔ second.rightpad n 0 ≤ first.rightpad n 0 := by
  rw [AtLeast, ← not_lt, ← not_lt,
    ← compareComponents_eq_lt_iff (Nat.le_max_left _ _) (Nat.le_max_right _ _),
    ← compareComponents_eq_lt_iff first_le second_le]

theorem atLeast_iff_compareComponents {first second : List Nat} :
    AtLeast first second ↔ compareComponents first second ≠ .lt := by
  rw [AtLeast, ← not_lt,
    ← compareComponents_eq_lt_iff (Nat.le_max_left _ _) (Nat.le_max_right _ _)]

theorem AtLeast.trans {first second third : List Nat} (later : AtLeast first second)
    (earlier : AtLeast second third) : AtLeast first third := by
  let n := max first.length (max second.length third.length)
  have first_le : first.length ≤ n := by omega
  have second_le : second.length ≤ n := by omega
  have third_le : third.length ≤ n := by omega
  rw [atLeast_iff first_le second_le] at later
  rw [atLeast_iff second_le third_le] at earlier
  exact (atLeast_iff first_le third_le).mpr (le_trans earlier later)

/-- Greater components in the same places make a version that is not before. -/
theorem atLeast_map {f g : Nat → Nat} (below : ∀ n, f n ≤ g n) (components : List Nat) :
    AtLeast (components.map g) (components.map f) := by
  rw [atLeast_iff_compareComponents]
  induction components with
  | nil => exact fun before => by cases before
  | cons n rest ih =>
      rw [List.map_cons, List.map_cons, compareComponents, Ne, Ordering.then_eq_lt]
      rintro (before | ⟨_, later⟩)
      · exact Nat.not_lt.mpr (below n) (Nat.compare_eq_lt.mp before)
      · exact ih later

theorem rightpad_append_zeros {n : Nat} {components : List Nat} {count : Nat}
    (fits : components.length + count ≤ n) :
    (components ++ List.replicate count 0).rightpad n 0 = components.rightpad n 0 := by
  rw [List.rightpad, List.rightpad, List.append_assoc, List.length_append, List.length_replicate,
    List.replicate_append_replicate]
  congr 2
  omega

/-- Zeros at the end count for nothing. -/
theorem atLeast_append_zeros {first second : List Nat} (count more : Nat) :
    AtLeast (first ++ List.replicate count 0) (second ++ List.replicate more 0) ↔
      AtLeast first second := by
  let n := max (first.length + count) (second.length + more)
  have first_le : first.length + count ≤ n := Nat.le_max_left _ _
  have second_le : second.length + more ≤ n := Nat.le_max_right _ _
  rw [atLeast_iff (n := n) (by simpa using first_le) (by simpa using second_le),
    rightpad_append_zeros first_le, rightpad_append_zeros second_le]
  exact (atLeast_iff (by omega) (by omega)).symm

/-! ## Versions -/

/-- A text of decimal digits with points between them. -/
structure DottedVersion where
  text : String
  digits : ((text.toList.splitOn '.').all fun component =>
    !component.isEmpty && component.all Char.isDigit) = true

/-- The number that is held for a component: too long ones give way to zero. -/
def held (n : Nat) : Nat := if n < 2 ^ 64 then n else 0

theorem held_le (n : Nat) : held n ≤ n := by
  rw [held]
  split
  · exact Nat.le_refl n
  · exact Nat.zero_le n

namespace DottedVersion

/-- What stands between the points. -/
def components (version : DottedVersion) : List (List Char) := version.text.toList.splitOn '.'

/-- The numbers of the components. -/
def numbers (version : DottedVersion) : List Nat := version.components.map Text.number

/-- Every number has at most 64 bits. -/
def Fits (version : DottedVersion) : Prop := ∀ n ∈ version.numbers, n < 2 ^ 64

/-- The version is declared by a document. -/
def DeclaredBy (version : DottedVersion) (document : Json) : Prop :=
  memberText? document "openapi" = some version.text

/-- A version is written with zeros in front of components, and with components of zeros at the
end. -/
def Padded (version longer : DottedVersion) : Prop :=
  ∃ count, List.Forall₂ (fun component long => ∃ zeros, long = List.replicate zeros '0' ++ component)
    (version.components ++ List.replicate count ['0']) longer.components

theorem isDigit_of_mem {version : DottedVersion} {component : List Char}
    (mem : component ∈ version.components) : ∀ c ∈ component, c.isDigit = true := by
  have checked := List.all_eq_true.mp version.digits component mem
  rw [Bool.and_eq_true, List.all_eq_true] at checked
  exact checked.2

theorem versionComponents_text (version : DottedVersion) :
    versionComponents version.text = version.numbers.map held := by
  rw [versionComponents, Text.splitAtChar_eq_splitOn, numbers, List.map_map]
  refine List.map_congr_left fun component mem => ?_
  have whole : component.takeWhile Char.isDigit = component :=
    List.takeWhile_eq_self_iff.mpr (isDigit_of_mem mem)
  simp only [versionComponent, whole, Text.decimal_eq_number, Function.comp_apply, held]

theorem Fits.map_held {version : DottedVersion} (fits : version.Fits) :
    version.numbers.map held = version.numbers := by
  have kept : ∀ n ∈ version.numbers, held n = id n := fun n mem => if_pos (fits n mem)
  rw [List.map_congr_left kept, List.map_id]

theorem Padded.numbers_eq {version longer : DottedVersion} (padded : version.Padded longer) :
    ∃ count, longer.numbers = version.numbers ++ List.replicate count 0 := by
  rcases padded with ⟨count, parts⟩
  refine ⟨count, ?_⟩
  have same : (version.components ++ List.replicate count ['0']).map Text.number =
      longer.components.map Text.number := by
    generalize version.components ++ List.replicate count ['0'] = components at parts
    generalize longer.components = longComponents at parts
    induction parts with
    | nil => rfl
    | cons part _ ih =>
        rcases part with ⟨zeros, rfl⟩
        rw [List.map_cons, List.map_cons, Text.number_zeros, ih]
  rw [numbers, ← same, List.map_append, List.map_replicate]
  rfl

end DottedVersion

theorem requireVersion_eq_ok_iff {found : DottedVersion} {document : Json}
    (declared : found.DeclaredBy document) (minimum : DottedVersion) :
    requireVersion document minimum.text = .ok () ↔
      AtLeast (found.numbers.map held) (minimum.numbers.map held) := by
  rw [atLeast_iff_compareComponents, ← found.versionComponents_text,
    ← minimum.versionComponents_text, ← versionOrder, requireVersion, declared]
  cases order : versionOrder found.text minimum.text <;> simp [order]

/-- A document is accepted exactly when the numbers of its version, as far as they are held, are not
before those of the minimum. Where they fit in 64 bits these are the numbers that are written, so a
later version that fits is accepted with an earlier one. Zeros in front of a component and
components of zeros at the end, in either version, change nothing. -/
theorem requireVersion_atLeast (found minimum : DottedVersion) {document : Json}
    (declared : found.DeclaredBy document) :
    (requireVersion document minimum.text = .ok () ↔
      AtLeast (found.numbers.map held) (minimum.numbers.map held)) ∧
    (found.Fits → minimum.Fits →
      (requireVersion document minimum.text = .ok () ↔
        AtLeast found.numbers minimum.numbers)) ∧
    (∀ (later : DottedVersion) (other : Json), later.DeclaredBy other → later.Fits →
      AtLeast later.numbers found.numbers →
      requireVersion document minimum.text = .ok () →
      requireVersion other minimum.text = .ok ()) ∧
    (∀ (longer longerMinimum : DottedVersion) (other : Json), longer.DeclaredBy other →
      found.Padded longer → minimum.Padded longerMinimum →
      (requireVersion other longerMinimum.text = .ok () ↔
        requireVersion document minimum.text = .ok ())) := by
  refine ⟨requireVersion_eq_ok_iff declared minimum, ?_, ?_, ?_⟩
  · intro found_fits minimum_fits
    rw [requireVersion_eq_ok_iff declared, found_fits.map_held, minimum_fits.map_held]
  · intro later other later_declared later_fits after accepted
    rw [requireVersion_eq_ok_iff declared] at accepted
    rw [requireVersion_eq_ok_iff later_declared, later_fits.map_held]
    have reached : AtLeast found.numbers (found.numbers.map held) := by
      simpa using atLeast_map (g := id) held_le found.numbers
    exact (after.trans reached).trans accepted
  · intro longer longerMinimum other longer_declared padded minimum_padded
    rcases padded.numbers_eq with ⟨count, numbers⟩
    rcases minimum_padded.numbers_eq with ⟨more, minimum_numbers⟩
    have zeros : ∀ count, (List.replicate count 0).map held = List.replicate count 0 :=
      fun count => List.map_replicate
    rw [requireVersion_eq_ok_iff longer_declared, requireVersion_eq_ok_iff declared, numbers,
      minimum_numbers, List.map_append, List.map_append, zeros, zeros, atLeast_append_zeros]

/-- The document that declares a version and nothing else. -/
def DottedVersion.document (version : DottedVersion) : Json := .object [("openapi", .string version.text)]

/-- A version of three components. -/
def tenthPatch : DottedVersion := ⟨"3.0.10", rfl⟩

/-- The same version, with zeros wherever they may be written. -/
def tenthPatchPadded : DottedVersion := ⟨"03.00.0010.0.0", rfl⟩

/-- The version before it, whose text comes after the one of `tenthPatch`. -/
def ninthPatch : DottedVersion := ⟨"3.0.9", rfl⟩

theorem requireVersion_atLeast_patch :
    (tenthPatch.DeclaredBy tenthPatch.document ∧
      tenthPatchPadded.DeclaredBy tenthPatchPadded.document) ∧
    (tenthPatch.Fits ∧ tenthPatchPadded.Fits ∧ ninthPatch.Fits) ∧
    AtLeast tenthPatchPadded.numbers tenthPatch.numbers ∧
    tenthPatch.Padded tenthPatchPadded ∧ ninthPatch.Padded ninthPatch ∧
    requireVersion tenthPatch.document ninthPatch.text = .ok () ∧
    requireVersion tenthPatchPadded.document ninthPatch.text = .ok () ∧
    (requireVersion tenthPatchPadded.document ninthPatch.text = .ok () ↔
      requireVersion tenthPatch.document ninthPatch.text = .ok ()) := by
  have declared : tenthPatch.DeclaredBy tenthPatch.document := rfl
  have padded_declared : tenthPatchPadded.DeclaredBy tenthPatchPadded.document := rfl
  have fits : tenthPatch.Fits ∧ tenthPatchPadded.Fits ∧ ninthPatch.Fits := by
    unfold DottedVersion.Fits
    decide
  have after : AtLeast tenthPatchPadded.numbers tenthPatch.numbers := by
    unfold AtLeast
    decide
  have padded : tenthPatch.Padded tenthPatchPadded := by
    have shorter : tenthPatch.components = [['3'], ['0'], ['1', '0']] := by decide
    have longer : tenthPatchPadded.components =
        [['0', '3'], ['0', '0'], ['0', '0', '1', '0'], ['0'], ['0']] := by decide
    refine ⟨2, ?_⟩
    rw [shorter, longer]
    exact .cons ⟨1, rfl⟩ (.cons ⟨1, rfl⟩ (.cons ⟨2, rfl⟩ (.cons ⟨0, rfl⟩ (.cons ⟨0, rfl⟩ .nil))))
  have unpadded : ninthPatch.Padded ninthPatch := by
    refine ⟨0, ?_⟩
    rw [List.replicate_zero, List.append_nil]
    exact List.forall₂_same.mpr fun _ _ => ⟨0, rfl⟩
  rcases requireVersion_atLeast tenthPatch ninthPatch declared with ⟨_, numeric, monotone, same⟩
  have accepted : requireVersion tenthPatch.document ninthPatch.text = .ok () :=
    (numeric fits.1 fits.2.2).mpr (by unfold AtLeast; decide)
  exact ⟨⟨declared, padded_declared⟩, fits, after, padded, unpadded, accepted,
    monotone _ _ padded_declared fits.2.1 after accepted,
    same _ _ _ padded_declared padded unpadded⟩

/-- A version whose first number takes 65 bits. -/
def wideVersion : DottedVersion := ⟨"18446744073709551616.0", rfl⟩

/-- The usual minimum. -/
def oldestVersion : DottedVersion := ⟨"3.0", rfl⟩

/-- A version that is far beyond the minimum is refused, as if it began with zero. -/
theorem refused_of_wideVersion :
    wideVersion.DeclaredBy wideVersion.document ∧
    AtLeast wideVersion.numbers oldestVersion.numbers ∧
    requireVersion wideVersion.document oldestVersion.text =
      .error (.unsupportedVersion "18446744073709551616.0" "3.0") := by
  refine ⟨rfl, ?_, rfl⟩
  unfold AtLeast
  decide

end Api

end ApiStub
