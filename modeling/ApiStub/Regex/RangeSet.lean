import ApiStub.Regex.CharClass

/-!
# Classes as ranges

A class is the same set as a list of ranges that are in ascending order and do not touch each
other. Surrogates are no characters and are left out.
-/

namespace ApiStub.Regex

open Unicode (Range)

/-- Joins ranges in ascending order as long as they touch the first one. -/
def coalesceFrom (first : Range) : List Range → List Range
  | [] => [first]
  | next :: rest =>
    if next.least ≤ first.greatest + 1 then
      coalesceFrom ⟨first.least, max first.greatest next.greatest⟩ rest
    else first :: coalesceFrom next rest

/-- The ranges in ascending order, joined where they touch. -/
def coalesce (ranges : List Range) : List Range :=
  match ranges.mergeSort fun left right => left.least ≤ right.least with
  | [] => []
  | first :: rest => coalesceFrom first rest

/-- The part of a range that lies below the surrogates, and the part above. -/
def scalarParts (range : Range) : List Range :=
  let low : Range := ⟨range.least, min range.greatest 0xD7FF⟩
  let high : Range := ⟨max range.least 0xE000, range.greatest⟩
  [low, high].filter fun part => part.least ≤ part.greatest

/-- The code points from `start` on that lie between ranges in ascending order. -/
def gapsFrom (start : Nat) : List Range → List Range
  | [] => [⟨start, 0x10FFFF⟩]
  | range :: rest => ⟨start, range.least - 1⟩ :: gapsFrom (range.greatest + 1) rest

/-- The code points outside of a set. -/
def complementRanges (ranges : List Range) : List Range :=
  let gaps :=
    match ranges with
    | ⟨0, greatest⟩ :: rest => gapsFrom (greatest + 1) rest
    | _ => gapsFrom 0 ranges
  gaps.filter fun gap => gap.least ≤ gap.greatest

/-- The code points of both sets. -/
def commonRanges (left right : List Range) : List Range :=
  complementRanges (coalesce (complementRanges left ++ complementRanges right))

/-- The set that an operation gives. -/
def SetOperation.ofRanges (operator : SetOperation) (left right : List Range) : List Range :=
  match operator with
  | intersection => commonRanges left right
  | difference => commonRanges left (complementRanges right)
  | symmetricDifference =>
    coalesce (commonRanges left (complementRanges right) ++
      commonRanges right (complementRanges left))

/-- The blanks. -/
def blankRanges : List Range :=
  [⟨9, 13⟩, ⟨0x20, 0x20⟩, ⟨0x85, 0x85⟩, ⟨0xA0, 0xA0⟩, ⟨0x1680, 0x1680⟩, ⟨0x2000, 0x200A⟩,
    ⟨0x2028, 0x2029⟩, ⟨0x202F, 0x202F⟩, ⟨0x205F, 0x205F⟩, ⟨0x3000, 0x3000⟩]

namespace CharClass

mutual

/-- The code points of a class, where surrogates may be counted in. -/
def codeRanges : CharClass → List Range
  | ranges list => coalesce list
  | digit => digitRanges
  | space => blankRanges
  | word => wordRanges
  | complement of => complementRanges of.codeRanges
  | union parts => coalesce (allCodeRanges parts)
  | operation operator left right => operator.ofRanges left.codeRanges right.codeRanges
  | bracket negated content =>
    if negated then complementRanges content.codeRanges else content.codeRanges

/-- The code points of several classes. -/
def allCodeRanges : List CharClass → List Range
  | [] => []
  | first :: rest => first.codeRanges ++ allCodeRanges rest

end

/-- The characters of a class. -/
def toRanges (set : CharClass) : List Range := set.codeRanges.flatMap scalarParts

end CharClass

end ApiStub.Regex
