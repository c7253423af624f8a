import ApiStub.Proofs.FillerText
import Mathlib

/-!
# The shape of filler text

Filler text is made of letters and digits, with single spaces that stand between two of them, and
does not begin with a small letter. The loop keeps the text so after every word. Cutting it may
leave a space at the end, never at the beginning, and only that one has to be replaced.
-/

namespace ApiStub.Mock

/-- Letters and digits, with single spaces between them. -/
structure Spaced (text : List Char) : Prop where
  plain : ∀ c ∈ text, c.isAlphanum ∨ c = ' '
  single : text.IsChain fun left right => left = ' ' → right ≠ ' '
  opening : text.head? ≠ some ' '
  closing : text.getLast? ≠ some ' '

theorem spaced_nil : Spaced [] := by
  constructor <;> simp

theorem ne_space_of_isAlphanum {c : Char} (plain : c.isAlphanum = true) : c ≠ ' ' := by
  rintro rfl
  revert plain
  decide

theorem isAlphanum_toUpper {c : Char} (plain : c.isAlphanum = true) :
    c.toUpper.isAlphanum = true := by
  by_cases small : c.isLower = true
  · simp [Char.isAlphanum, Char.isAlpha, small]
  · rw [Char.toUpper_eq_of_not_isLower small]
    exact plain

section Drawing

variable {σ : Type} [WordSource σ]

theorem yields_word_isAlphanum (vocabulary : Vocabulary) :
    (word vocabulary : Draw σ (List Char)).Yields fun word => ∀ c ∈ word, c.isAlphanum = true := by
  refine (Draw.yields_trivial (Draw.choose? vocabulary.words)).map fun chosen _ => ?_
  intro c mem
  exact (List.mem_filter.mp mem).2

theorem orElse_isAlphanum {fallback : String} {word : List Char}
    (fallback_plain : ∀ c ∈ fallback.toList, c.isAlphanum = true)
    (plain : ∀ c ∈ word, c.isAlphanum = true) :
    ∀ c ∈ orElse fallback word, c.isAlphanum = true := by
  unfold orElse
  split
  · exact fallback_plain
  · exact plain

end Drawing

/-! ## Cutting -/

theorem Spaced.capitalize {text : List Char} (spaced : Spaced text) :
    Spaced (capitalize text) := by
  cases text with
  | nil => exact spaced_nil
  | cons first rest =>
      have first_plain : first.isAlphanum = true := by
        rcases spaced.plain first List.mem_cons_self with plain | space
        · exact plain
        · exact absurd (by rw [space]; rfl) spaced.opening
      have capital_plain := isAlphanum_toUpper first_plain
      have capital_ne := ne_space_of_isAlphanum capital_plain
      constructor
      · intro c mem
        rcases List.mem_cons.mp mem with rfl | behind
        · exact .inl capital_plain
        · exact spaced.plain c (List.mem_cons_of_mem _ behind)
      · have single := spaced.single
        simp only [Mock.capitalize, List.isChain_cons] at single ⊢
        refine ⟨?_, single.2⟩
        intro next _ space
        exact absurd space capital_ne
      · simpa [Mock.capitalize] using capital_ne
      · have closing := spaced.closing
        cases rest with
        | nil => simpa [Mock.capitalize] using capital_ne
        | cons second rest => simpa [Mock.capitalize] using closing

variable {σ : Type} [WordSource σ]

end ApiStub.Mock
