import ApiStub.Pattern.Basic
import ApiStub.Text.Digits

/-!
# Reading patterns

The notation of regular expressions as far as texts can be drawn from it: literals, `.`, classes,
the escapes `\d \w \s` and their complements, groups, alternation, quantifiers, and anchors and
word boundaries, which stand for nothing. Look-around, named groups, flags and back-references are
refused.

Every reader takes the rest of the notation and returns what it read with the rest after it. Each
level of nesting costs at most four calls per character, which bounds the fuel.
-/

namespace ApiStub.Pattern

/-- How much further than its least count an open repetition goes. -/
def openSlack : Nat := 4

/-- Whether a character may be written for a word or digit escape that stands for nothing. -/
def isBoundaryEscape (c : Char) : Bool := c == 'b' || c == 'B' || c == 'A' || c == 'z'

/-- The pattern of an escape; none for a back-reference. -/
def escape? (c : Char) : Option Pattern :=
  match c with
  | 'd' => some (.oneOf ⟨CharSet.digits, false⟩)
  | 'D' => some (.oneOf ⟨CharSet.digits, true⟩)
  | 'w' => some (.oneOf ⟨CharSet.wordParts, false⟩)
  | 'W' => some (.oneOf ⟨CharSet.wordParts, true⟩)
  | 's' => some (.oneOf ⟨CharSet.blanks, false⟩)
  | 'S' => some (.oneOf ⟨CharSet.blanks, true⟩)
  | 'n' => some (.literal '\n')
  | 't' => some (.literal '\t')
  | 'r' => some (.literal '\r')
  | c =>
    if isBoundaryEscape c then some .empty
    else if c.isDigit then none
    else some (.literal c)

/-- The ranges of an escape inside a class that names more than one character. -/
def classEscape? (c : Char) : Option (List CharRange) :=
  match c with
  | 'd' => some CharSet.digits
  | 'w' => some CharSet.wordParts
  | 's' => some CharSet.blanks
  | _ => none

/-- The character of any other escape inside a class. -/
def classLiteral (c : Char) : Char :=
  match c with
  | 'n' => '\n'
  | 't' => '\t'
  | c => c

/-- Reads on after the lower end of a range. A hyphen before anything but the closing bracket
makes a range, whose upper end must not lie below. -/
def readRange (least : Char) (input : List Char) : Option (CharRange × List Char) :=
  match input with
  | '-' :: ']' :: _ => some (.single least, input)
  | '-' :: '\\' :: greatest :: rest =>
    if greatest < least then none else some (⟨least, greatest⟩, rest)
  | ['-', '\\'] => none
  | '-' :: greatest :: rest =>
    if greatest < least then none else some (⟨least, greatest⟩, rest)
  | _ => some (.single least, input)

/-- Reads the members of a class up to its closing bracket. A bracket that comes first is a
member. -/
def readMembers : Nat → (first : Bool) → List Char → Option (List CharRange × List Char)
  | 0, _, _ => none
  | fuel + 1, first, input =>
    match input with
    | [] => none
    | '\\' :: c :: rest =>
      match classEscape? c with
      | some ranges => do
        let (more, rest) ← readMembers fuel false rest
        some (ranges ++ more, rest)
      | none => do
        let (range, rest) ← readRange (classLiteral c) rest
        let (more, rest) ← readMembers fuel false rest
        some (range :: more, rest)
    | ['\\'] => none
    | c :: rest =>
      if c == ']' && !first then some ([], rest)
      else do
        let (range, rest) ← readRange c rest
        let (more, rest) ← readMembers fuel false rest
        some (range :: more, rest)

/-- Reads a class after its opening bracket. -/
def readClass (input : List Char) : Option (Pattern × List Char) :=
  let (negated, members) :=
    match input with
    | '^' :: rest => (true, rest)
    | _ => (false, input)
  (readMembers (members.length + 1) true members).map fun (ranges, rest) =>
    (.oneOf ⟨ranges, negated⟩, rest)

/-- Reads a count of 32 bits. Digits are taken also when their value is too large to be one. -/
def readCount (input : List Char) : Option Nat × List Char :=
  let digits := input.takeWhile Char.isDigit
  let value := Text.decimal digits
  (if digits.isEmpty || 2 ^ 32 ≤ value then none else some value, input.dropWhile Char.isDigit)

/-- Reads the bounds of a counted quantifier after its opening brace. -/
def readBounds (input : List Char) : Option ((Nat × Nat) × List Char) :=
  match readCount input with
  | (some least, '}' :: rest) => some ((least, least), rest)
  | (some least, ',' :: rest) =>
    match readCount rest with
    | (some greatest, '}' :: rest) =>
      if least ≤ greatest then some ((least, greatest), rest) else none
    | (none, '}' :: rest) => some ((least, (least + openSlack) % 2 ^ 32), rest)
    | _ => none
  | _ => none

/-- Reads the bounds of a quantifier. Braces that hold no bounds are literals and no quantifier. -/
def readQuantifier (input : List Char) : Option ((Nat × Nat) × List Char) :=
  match input with
  | '*' :: rest => some ((0, openSlack), rest)
  | '+' :: rest => some ((1, 1 + openSlack), rest)
  | '?' :: rest => some ((0, 1), rest)
  | '{' :: rest => readBounds rest
  | _ => none

/-- Drops the mark of a lazy or possessive quantifier, which does not change what can match. -/
def skipGreed : List Char → List Char
  | '?' :: rest => rest
  | '+' :: rest => rest
  | rest => rest

/-- The atom with the quantifier that follows it, if one does. -/
def quantify (atom : Pattern) (input : List Char) : Pattern × List Char :=
  match readQuantifier input with
  | some ((least, greatest), rest) => (.repeated atom least greatest, skipGreed rest)
  | none => (atom, input)

mutual

/-- Reads sequences that are separated by bars. -/
def readBranches : Nat → List Char → Option (List (List Pattern) × List Char)
  | 0, _ => none
  | fuel + 1, input => do
    let (branch, rest) ← readSequence fuel input
    match rest with
    | '|' :: rest =>
      let (branches, rest) ← readBranches fuel rest
      some (branch :: branches, rest)
    | rest => some ([branch], rest)

/-- Reads quantified atoms up to a bar, a closing parenthesis or the end. -/
def readSequence : Nat → List Char → Option (List Pattern × List Char)
  | 0, _ => none
  | fuel + 1, input =>
    match input with
    | [] => some ([], [])
    | '|' :: _ => some ([], input)
    | ')' :: _ => some ([], input)
    | c :: rest => do
      let (atom, rest) ← readAtom fuel c rest
      let (piece, rest) := quantify atom rest
      let (pieces, rest) ← readSequence fuel rest
      some (piece :: pieces, rest)

/-- Reads an atom that begins with the given character. -/
def readAtom : Nat → Char → List Char → Option (Pattern × List Char)
  | 0, _, _ => none
  | fuel + 1, c, rest =>
    match c with
    | '^' => some (.empty, rest)
    | '$' => some (.empty, rest)
    | '(' =>
      match rest with
      | '?' :: ':' :: rest => readGroup fuel rest
      | '?' :: _ => none
      | rest => readGroup fuel rest
    | '[' => readClass rest
    | '.' => some (.oneOf ⟨CharSet.alphanumerics, false⟩, rest)
    | '\\' =>
      match rest with
      | [] => none
      | c :: rest => (escape? c).map fun atom => (atom, rest)
    | c => if c == '*' || c == '+' || c == '?' then none else some (.literal c, rest)

/-- Reads a group after its opening parenthesis. -/
def readGroup : Nat → List Char → Option (Pattern × List Char)
  | 0, _ => none
  | fuel + 1, input => do
    let (branches, rest) ← readBranches fuel input
    match rest with
    | ')' :: rest => some (.choice branches, rest)
    | _ => none

end

/-- The pattern of a notation. -/
def read? (source : List Char) : Option Pattern :=
  match readBranches (4 * (source.length + 1)) source with
  | some (branches, []) => some (.choice branches)
  | _ => none

end ApiStub.Pattern
