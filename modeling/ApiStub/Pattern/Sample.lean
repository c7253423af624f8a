import ApiStub.Pattern.Reader
import ApiStub.Regex.Match
import ApiStub.Regex.Size

/-!
# Texts of a regular expression

A candidate is drawn from the pattern that a notation leaves, and is answered only when the
notation, read as a regular expression, matches it. A notation that is no regular expression, or
that has no pattern, has no texts.
-/

namespace ApiStub.Pattern

variable {σ : Type} [WordSource σ]

/-- How many candidates are tried. -/
def candidateLimit : Nat := 8

/-- The first candidate that the expression matches, of at most so many. A pattern that cannot
give a candidate is given up at once. -/
def attempt (expression : Regex) (pattern : Pattern) : Nat → Draw σ (Option (List Char))
  | 0 => pure none
  | attempts + 1 => do
    match ← pattern.text? with
    | none => pure none
    | some text =>
      if expression.isMatch text then pure (some text)
      else attempt expression pattern attempts

/-- A text that a notation matches, or none. -/
def matching (source : String) : Draw σ (Option String) :=
  match Regex.compile? source.toList, Pattern.read? source.toList with
  | some expression, some pattern =>
    Option.map String.ofList <$> attempt expression pattern candidateLimit
  | _, _ => pure none

end ApiStub.Pattern
