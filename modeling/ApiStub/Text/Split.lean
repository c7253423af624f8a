/-!
# Splitting
-/

namespace ApiStub.Text

/-- Splits a text at a character; a text without it is one part. -/
def splitAtChar (separator : Char) : List Char → List (List Char)
  | [] => [[]]
  | c :: rest =>
    if c == separator then [] :: splitAtChar separator rest
    else match splitAtChar separator rest with
      | part :: parts => (c :: part) :: parts
      | [] => [[c]]

theorem splitAtChar_eq_splitOn (separator : Char) (text : List Char) :
    splitAtChar separator text = text.splitOn separator := by
  induction text with
  | nil => rfl
  | cons c rest ih =>
      rw [splitAtChar, List.splitOn_cons_eq_if_modifyHead, ih]
      split
      · rfl
      · rcases List.exists_cons_of_ne_nil (List.splitOn_ne_nil separator rest)
          with ⟨part, parts, split⟩
        rw [split]
        rfl

/-- Parts that are joined with a separator are found again. -/
theorem splitAtChar_intercalate {separator : Char} {parts : List (List Char)}
    (absent : ∀ part ∈ parts, separator ∉ part) (nonempty : parts ≠ []) :
    splitAtChar separator ([separator].intercalate parts) = parts := by
  rw [splitAtChar_eq_splitOn, List.splitOn_intercalate separator absent nonempty]

end ApiStub.Text
