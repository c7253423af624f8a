import ApiStub.Regex.RangeSet

/-!
# Ranges of bytes

In UTF-8 a range of characters is a sequence of byte ranges when its ends have as many bytes and
differ only where all that follows is free. Every range of characters falls into a few such parts.
-/

namespace ApiStub.Regex

open Unicode (Range)

/-- The bytes of a code point in UTF-8. -/
def utf8Bytes (code : Nat) : List Nat :=
  if code < 0x80 then [code]
  else if code < 0x800 then [0xC0 + code / 64, 0x80 + code % 64]
  else if code < 0x10000 then
    [0xE0 + code / 4096, 0x80 + code / 64 % 64, 0x80 + code % 64]
  else
    [0xF0 + code / 262144, 0x80 + code / 4096 % 64, 0x80 + code / 64 % 64, 0x80 + code % 64]

/-- The last code points with one, two and three bytes. -/
def lengthLimits : List Nat := [0x7F, 0x7FF, 0xFFFF]

/-- Where a range is to be cut so that no part crosses a limit of lengths. -/
def lengthCut? (range : Range) : Option Nat :=
  lengthLimits.find? fun limit => range.least ≤ limit && limit < range.greatest

/-- Where a range is to be cut so that blocks of a size are either whole or not left. -/
def blockCut? (range : Range) (block : Nat) : Option Nat :=
  if range.least / block == range.greatest / block then none
  else if range.least % block != 0 then some (range.least / block * block + block - 1)
  else if range.greatest % block != block - 1 then some (range.greatest / block * block - 1)
  else none

/-- The last code point of the first part of a range that falls into parts. -/
def cut? (range : Range) : Option Nat :=
  lengthCut? range <|>
    if range.greatest < 0x80 then none
    else blockCut? range 64 <|> blockCut? range 4096 <|> blockCut? range 262144

/-- The parts of a range, cut at most `fuel` times in a row. -/
def parts : Nat → Range → List Range
  | 0, range => [range]
  | fuel + 1, range =>
    match cut? range with
    | none => [range]
    | some last => parts fuel ⟨range.least, last⟩ ++ parts fuel ⟨last + 1, range.greatest⟩

/-- The sequences of byte ranges of a range of characters. Three limits of lengths and two ends
of three sizes of blocks make nine cuts at most. -/
def byteSequences (range : Range) : List (List Range) :=
  (parts 9 range).map fun part =>
    (utf8Bytes part.least).zipWith Range.mk (utf8Bytes part.greatest)

/-- Sequences that begin alike, one after another, with what follows their beginning. -/
def groupHeads : List (List Range) → List (Range × List (List Range))
  | [] => []
  | [] :: rest => groupHeads rest
  | (head :: tail) :: rest =>
    match groupHeads rest with
    | (other, tails) :: groups =>
      if other = head then (head, tail :: tails) :: groups
      else (head, [tail]) :: (other, tails) :: groups
    | [] => [(head, [tail])]

end ApiStub.Regex
