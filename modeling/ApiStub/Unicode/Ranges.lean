import ApiStub.Text.Digits

/-!
# Sets of code points

A set of code points is a list of ranges in ascending order. In a table it is written as the
lengths of its gaps and runs in turn, in hexadecimal, beginning with the gap before the first run.
-/

namespace ApiStub.Unicode

/-- The code points from `least` to `greatest`, both included. -/
structure Range where
  /-- The first code point. -/
  least : Nat
  /-- The last code point. -/
  greatest : Nat
  deriving DecidableEq, Repr, Inhabited

/-- Whether a code point lies in one of the ranges. -/
def covers (ranges : List Range) (code : Nat) : Bool :=
  ranges.any fun range => range.least ≤ code && code ≤ range.greatest

/-- The numbers of a row, which are separated by spaces. `number` is the one that has begun. -/
def lengths (number : Nat) : List Char → List Nat
  | [] => [number]
  | ' ' :: rest => number :: lengths 0 rest
  | c :: rest => lengths (number * 16 + (Text.hexDigit? c).getD 0) rest

/-- The ranges of alternating gaps and runs from `start` on. A last gap without a run after it
means that everything from there on is in the set. -/
def runs (start : Nat) : List Nat → List Range
  | [] => []
  | [gap] => [⟨start + gap, 0x10FFFF⟩]
  | gap :: run :: rest => ⟨start + gap, start + gap + run - 1⟩ :: runs (start + gap + run) rest

/-- The ranges of a table, which is broken into rows. -/
def decode (table : List String) : List Range :=
  runs 0 (table.flatMap fun row => lengths 0 row.toList)

/-- A set with its names. -/
structure Entry where
  /-- The names, as the standard writes them. -/
  names : List String
  /-- The rows of the table of the set. -/
  table : List String

/-- A name as it is compared: without case, spaces, underscores and hyphens. -/
def looseName (name : List Char) : List Char :=
  (name.filter fun c => c.toNat < 128 && c != ' ' && c != '_' && c != '-').map Char.toLower

/-- The first entry with the given name. -/
def find? (entries : List Entry) (name : List Char) : Option Entry :=
  entries.find? fun entry => entry.names.any fun other => looseName other.toList == name

end ApiStub.Unicode
