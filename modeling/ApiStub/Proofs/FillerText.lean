import ApiStub.Mock.Text
import ApiStub.Proofs.Draws

/-!
# Length of filler text

Filler text has exactly the drawn number of characters. The loop stops after as many words as
there are characters wanted, which is enough because a word is never empty; closing the text and
its capital letter replace characters one by one.
-/

namespace ApiStub.Mock

variable {σ : Type} [WordSource σ]

theorem orElse_ne_nil {fallback : String} (nonempty : fallback.toList ≠ []) (word : List Char) :
    orElse fallback word ≠ [] := by
  cases word with
  | nil => simpa [orElse] using nonempty
  | cons c rest => simp [orElse]

/-- Every round either stops at the target or adds a character. -/
theorem yields_gatherWords (vocabulary : Vocabulary) {target rounds length : Nat}
    {done : List Char} (counted : length = done.length) (enough : target ≤ length + rounds) :
    (gatherWords vocabulary target rounds length done : Draw σ (List Char)).Yields
      fun gathered => target ≤ gathered.length := by
  induction rounds generalizing length done with
  | zero =>
      apply Draw.yields_pure
      omega
  | succ rounds ih =>
      simp only [gatherWords]
      split
      · apply Draw.yields_pure
        omega
      · refine (Draw.yields_trivial (word vocabulary)).bind fun drawn _ => ?_
        have next_pos : 0 < (orElse "lorem" drawn).length :=
          List.length_pos_iff.mpr (orElse_ne_nil (by decide) drawn)
        apply ih
        · cases done with
          | nil => simpa using counted
          | cons c rest =>
              simp only [List.isEmpty_cons, Bool.false_eq_true, if_false, List.length_append,
                List.length_reverse, List.length_cons] at counted ⊢
              omega
        · omega

theorem length_closeText (text : List Char) : (closeText text).length = text.length := by
  simp only [closeText]
  split
  · rename_i space
    have nonempty : text ≠ [] := by
      rintro rfl
      simp at space
    have := List.length_pos_iff.mpr nonempty
    simp only [List.length_append, List.length_dropLast, List.length_singleton]
    omega
  · rfl

theorem length_capitalize (text : List Char) : (capitalize text).length = text.length := by
  cases text <;> rfl

theorem yields_textOfLength (vocabulary : Vocabulary) (target : Nat) :
    (textOfLength vocabulary target : Draw σ (List Char)).Yields
      fun text => text.length = target := by
  refine (yields_gatherWords vocabulary (by rfl) (by omega)).map fun gathered enough => ?_
  rw [length_capitalize, length_closeText, List.length_take, List.length_reverse]
  omega

theorem yields_text (vocabulary : Vocabulary) (least greatest : Nat) :
    (text vocabulary least greatest : Draw σ String).Yields
      fun text => least ≤ text.length ∧ text.length ≤ max greatest least := by
  refine (Draw.yields_natBetween .bits64 (Nat.le_max_right _ _)).bind fun target bounds => ?_
  refine (yields_textOfLength vocabulary target).map fun text length_eq => ?_
  rw [String.length_ofList, length_eq]
  exact bounds

end ApiStub.Mock
