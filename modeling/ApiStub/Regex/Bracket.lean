import ApiStub.Regex.Escape

/-!
# Reading bracketed classes

Members of a class stand side by side; two classes of members may be joined by `&&`, `--` or `~~`,
from left to right. A class may hold further classes in brackets and the named classes of ASCII.
Hyphens that come first are members, and so is a closing bracket that comes first.
-/

namespace ApiStub.Regex

/-- A member of a class that has one meaning in a range and the same outside of it. -/
inductive Member where
  | literal (c : Char)
  | chars (set : CharClass)

/-- Reads one member: an escape that is no condition, or any character. -/
def readMember (input : List Char) : Option (Member × List Char) :=
  match input with
  | [] => none
  | '\\' :: rest =>
    match readEscape rest with
    | some (.literal c, rest) => some (.literal c, rest)
    | some (.chars set, rest) => some (.chars set, rest)
    | _ => none
  | c :: rest => some (.literal c, rest)

/-- The class of a member. -/
def Member.toClass : Member → CharClass
  | literal c => .single c
  | chars set => set

/-- Reads a member or a range. A hyphen makes a range unless it closes the class or belongs to the
difference of two classes. Both ends of a range are characters, in order. -/
def readRange (input : List Char) : Option (CharClass × List Char) := do
  let (first, rest) ← readMember input
  match rest with
  | [] => none
  | '-' :: ']' :: _ => some (first.toClass, rest)
  | '-' :: '-' :: _ => some (first.toClass, rest)
  | '-' :: after => do
    let (last, rest) ← readMember after
    match first, last with
    | .literal least, .literal greatest =>
      if greatest < least then none
      else some (.ranges [⟨least.toNat, greatest.toNat⟩], rest)
    | _, _ => none
  | _ => some (first.toClass, rest)

/-- Reads a named class of ASCII after the bracket that opens it. -/
def readAsciiClass (input : List Char) : Option (CharClass × List Char) :=
  match input with
  | ':' :: rest =>
    let (negated, rest) :=
      match rest with
      | '^' :: rest => (true, rest)
      | _ => (false, rest)
    match rest.dropWhile (· != ':') with
    | ':' :: ']' :: after =>
      (CharClass.ofAsciiName? (String.ofList (rest.takeWhile (· != ':')))).map fun set =>
        (if negated then .complement set else set, after)
    | _ => none
  | _ => none

/-- The hyphens at the beginning of a class, and what follows them. -/
def leadingHyphens (input : List Char) : List CharClass × List Char :=
  ((input.takeWhile (· == '-')).map .single, input.dropWhile (· == '-'))

/-- The beginning of a class after its bracket: whether it is negated, the members that can only
stand there, and the rest. -/
def openBracket (input : List Char) : Bool × List CharClass × List Char :=
  let (negated, rest) :=
    match input with
    | '^' :: rest => (true, rest)
    | _ => (false, input)
  match leadingHyphens rest with
  | ([], ']' :: rest) => (negated, [.single ']'], rest)
  | (hyphens, rest) => (negated, hyphens, rest)

/-- Two classes with the operation that is waiting for its right side. -/
def joinPending (pending : Option (SetOperation × CharClass)) (right : CharClass) : CharClass :=
  match pending with
  | none => right
  | some (operator, left) => .operation operator left right

/-- Reads what follows in a class up to its closing bracket. `members` holds the members since the
last operation, in reverse. -/
def readContent : Nat → Option (SetOperation × CharClass) → List CharClass → List Char →
    Option (CharClass × List Char)
  | 0, _, _, _ => none
  | fuel + 1, pending, members, input =>
    let content := joinPending pending (.ofMembers members.reverse)
    match input with
    | [] => none
    | '[' :: rest =>
      match readAsciiClass rest with
      | some (set, rest) => readContent fuel pending (set :: members) rest
      | none => do
        let (negated, inner, rest) := openBracket rest
        let (nested, rest) ← readContent fuel none inner.reverse rest
        readContent fuel pending (.bracket negated nested :: members) rest
    | ']' :: rest => some (content, rest)
    | '&' :: '&' :: rest => readContent fuel (some (.intersection, content)) [] rest
    | '-' :: '-' :: rest => readContent fuel (some (.difference, content)) [] rest
    | '~' :: '~' :: rest => readContent fuel (some (.symmetricDifference, content)) [] rest
    | _ => do
      let (member, rest) ← readRange input
      readContent fuel pending (member :: members) rest

/-- Reads a class after the bracket that opens it. Every step takes a character at least. -/
def readBracket (input : List Char) : Option (CharClass × List Char) :=
  let (negated, members, rest) := openBracket input
  (readContent (input.length + 1) none members.reverse rest).map fun (content, rest) =>
    (.bracket negated content, rest)

end ApiStub.Regex
