import ApiStub.Random.Uniform

/-!
# Character sets to draw from

A set is a list of ranges of code points, or what printable ASCII has outside of such ranges.
Ranges may overlap; a character that lies in two of them is drawn twice as often.
-/

namespace ApiStub.Pattern

/-- The characters from `least` to `greatest`, both included. -/
structure CharRange where
  /-- The first character. -/
  least : Char
  /-- The last character. -/
  greatest : Char
  deriving DecidableEq, Repr, Inhabited

namespace CharRange

/-- The range of one character. -/
def single (c : Char) : CharRange := ⟨c, c⟩

/-- Whether a character lies in the range. -/
def contains (range : CharRange) (c : Char) : Bool :=
  range.least ≤ c && c ≤ range.greatest

/-- How many code points the range spans. -/
def width (range : CharRange) : Nat := range.greatest.toNat - range.least.toNat + 1

theorem width_pos (range : CharRange) : 0 < range.width := Nat.succ_pos _

end CharRange

/-- A set of characters. -/
structure CharSet where
  /-- The ranges, in the order in which they are counted through. -/
  ranges : List CharRange
  /-- Whether the characters outside of the ranges are meant. -/
  negated : Bool := false
  deriving DecidableEq, Repr, Inhabited

namespace CharSet

/-- The decimal digits. -/
def digits : List CharRange := [⟨'0', '9'⟩]

/-- The characters of words. -/
def wordParts : List CharRange := [⟨'a', 'z'⟩, ⟨'A', 'Z'⟩, ⟨'0', '9'⟩, ⟨'_', '_'⟩]

/-- The one blank that is ever written. -/
def blanks : List CharRange := [⟨' ', ' '⟩]

/-- What is written for any character: a letter or a digit. -/
def alphanumerics : List CharRange := [⟨'a', 'z'⟩, ⟨'A', 'Z'⟩, ⟨'0', '9'⟩]

/-- The printable characters of ASCII, in order. -/
def printable : List Char := (List.range 95).map fun offset => Char.ofNat (32 + offset)

/-- Whether a character lies in one of the ranges. -/
def covers (set : CharSet) (c : Char) : Bool := set.ranges.any fun range => range.contains c

/-- The printable characters outside of the ranges. -/
def outside (set : CharSet) : List Char := printable.filter fun c => !set.covers c

/-- The character of a code point; none for a surrogate or beyond the last one. -/
def charOf? (code : Nat) : Option Char :=
  if code.isValidChar then some (Char.ofNat code) else none

/-- Counts through the ranges up to the code point with the given index. -/
def nth? : List CharRange → Nat → Option Char
  | [], _ => none
  | range :: rest, index =>
    if index < range.width then charOf? (range.least.toNat + index)
    else nth? rest (index - range.width)

/-- How many code points the ranges span together. The count has 32 bits and starts again from zero
when it is full. -/
def span (ranges : List CharRange) : Nat := (ranges.map CharRange.width).sum % 2 ^ 32

/-- A character of the set. None when the set is empty, or when the code point drawn is no
character. -/
def sample {σ : Type} [WordSource σ] (set : CharSet) : Draw σ (Option Char) :=
  if set.negated then
    match set.outside with
    | [] => pure none
    | candidates =>
      (fun index => candidates[index]?) <$> Draw.below .bits64 candidates.length
  else if span set.ranges == 0 then pure none
  else nth? set.ranges <$> Draw.below .bits32 (span set.ranges)

end CharSet

end ApiStub.Pattern
