import ApiStub.Regex.Bracket

/-!
# Reading regular expressions

An expression consists of branches between bars, a branch of quantified atoms. A quantifier needs
something to repeat, and a brace outside of a class always begins one. Groups may capture or not;
look-around, names and flags are refused.

Each level of nesting costs at most four calls per character, which bounds the fuel.
-/

namespace ApiStub.Regex

/-- Whether a character begins a quantifier. -/
def isQuantifier (c : Char) : Bool := c == '*' || c == '+' || c == '?' || c == '{'

/-- Reads a number of 32 bits with blanks around it. -/
def readNumber (input : List Char) : Option (Nat × List Char) :=
  let rest := input.dropWhile Text.isBlank
  let digits := rest.takeWhile Char.isDigit
  let value := Text.decimal digits
  if digits.isEmpty || 2 ^ 32 ≤ value then none
  else some (value, (rest.dropWhile Char.isDigit).dropWhile Text.isBlank)

/-- Reads the counts of a quantifier after its opening brace. -/
def readCounts (input : List Char) : Option ((Nat × Option Nat) × List Char) := do
  let (least, rest) ← readNumber input
  match rest with
  | '}' :: rest => some ((least, some least), rest)
  | ',' :: '}' :: rest => some ((least, none), rest)
  | ',' :: rest => do
    let (greatest, rest) ← readNumber rest
    match rest with
    | '}' :: rest => if least ≤ greatest then some ((least, some greatest), rest) else none
    | _ => none
  | _ => none

/-- Reads the counts of the quantifier that begins with the given character. -/
def readQuantifier (c : Char) (rest : List Char) : Option ((Nat × Option Nat) × List Char) :=
  match c with
  | '*' => some ((0, none), rest)
  | '+' => some ((1, none), rest)
  | '?' => some ((0, some 1), rest)
  | _ => readCounts rest

/-- Drops the mark of a lazy quantifier, which does not change what is matched. -/
def skipLazy : List Char → List Char
  | '?' :: rest => rest
  | rest => rest

/-- Applies all quantifiers that follow an atom, the next one to the result of the last. -/
def quantify : Nat → Regex → List Char → Option (Regex × List Char)
  | 0, _, _ => none
  | fuel + 1, atom, input =>
    match input with
    | [] => some (atom, [])
    | c :: rest =>
      if isQuantifier c then do
        let ((least, greatest), rest) ← readQuantifier c rest
        quantify fuel (.repetition atom least greatest) (skipLazy rest)
      else some (atom, input)

/-- The expression of an escape. -/
def Escape.toRegex : Escape → Regex
  | literal c => .chars (.single c)
  | chars set => .chars set
  | look condition => .look condition

mutual

/-- Reads branches that are separated by bars. -/
def readBranches : Nat → List Char → Option (List Regex × List Char)
  | 0, _ => none
  | fuel + 1, input => do
    let (parts, rest) ← readSequence fuel input
    match rest with
    | '|' :: rest =>
      let (branches, rest) ← readBranches fuel rest
      some (ofParts parts :: branches, rest)
    | rest => some ([ofParts parts], rest)

/-- Reads quantified atoms up to a bar, a closing parenthesis or the end. -/
def readSequence : Nat → List Char → Option (List Regex × List Char)
  | 0, _ => none
  | fuel + 1, input =>
    match input with
    | [] => some ([], [])
    | '|' :: _ => some ([], input)
    | ')' :: _ => some ([], input)
    | c :: rest =>
      if isQuantifier c then none
      else do
        let (atom, rest) ← readAtom fuel c rest
        let (part, rest) ← quantify (rest.length + 1) atom rest
        let (parts, rest) ← readSequence fuel rest
        some (part :: parts, rest)

/-- Reads an atom that begins with the given character. -/
def readAtom : Nat → Char → List Char → Option (Regex × List Char)
  | 0, _, _ => none
  | fuel + 1, c, rest =>
    match c with
    | '^' => some (.look .start, rest)
    | '$' => some (.look .finish, rest)
    | '.' => some (.chars .anyInLine, rest)
    | '[' => (readBracket rest).map fun (set, rest) => (.chars set, rest)
    | '\\' => (readEscape rest).map fun (escape, rest) => (escape.toRegex, rest)
    | '(' =>
      match rest with
      | '?' :: ':' :: rest => readGroup fuel false rest
      | '?' :: _ => none
      | rest => readGroup fuel true rest
    | c => some (.chars (.single c), rest)

/-- Reads a group after what opens it. -/
def readGroup : Nat → Bool → List Char → Option (Regex × List Char)
  | 0, _, _ => none
  | fuel + 1, captures, input => do
    let (branches, rest) ← readBranches fuel input
    match rest with
    | ')' :: rest => some (.group captures (ofBranches branches), rest)
    | _ => none

end

/-- The deepest nesting that is accepted. -/
def maxDepth : Nat := 250

/-- The expression that a text writes. -/
def read? (source : List Char) : Option Regex :=
  match readBranches (4 * (source.length + 1)) source with
  | some (branches, []) =>
    let expression := ofBranches branches
    if expression.depth ≤ maxDepth then some expression else none
  | _ => none

end ApiStub.Regex
