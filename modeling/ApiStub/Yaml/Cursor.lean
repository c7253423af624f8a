/-!
# Positions in a YAML text

A `Cursor` is what is left of a text, with its position. Lines end at a line feed, a carriage
return, both in this order, or one of the three Unicode line breaks.
-/

namespace ApiStub.Yaml

/-- A space or a tab. -/
def isBlank (c : Char) : Bool := c == ' ' || c == '\t'

/-- A character that ends a line. -/
def isBreak (c : Char) : Bool :=
  c == '\n' || c == '\r' || c == '\u0085' || c == '\u2028' || c == '\u2029'

/-- A character of a name: an ASCII letter or digit, an underscore or a hyphen. -/
def isNameChar (c : Char) : Bool := c.isAlphanum || c == '_' || c == '-'

/-- A character that a YAML text may hold. -/
def isAllowed (c : Char) : Bool :=
  let n := c.toNat
  n == 0x09 || n == 0x0A || n == 0x0D || (0x20 ≤ n && n ≤ 0x7E) || n == 0x85 ||
    (0xA0 ≤ n && n ≤ 0xFFFD) || 0x10000 ≤ n

/-- The rest of a text with its position. -/
structure Cursor where
  /-- The characters not consumed yet. -/
  rest : List Char
  /-- How many characters come before. -/
  index : Nat := 0
  /-- How many lines end before. -/
  line : Nat := 0
  /-- How many characters of the line come before. -/
  column : Nat := 0

namespace Cursor

/-- The next character. -/
def head? (cursor : Cursor) : Option Char := cursor.rest.head?

/-- Whether the next character is the given one. -/
def nextIs (cursor : Cursor) (c : Char) : Bool := cursor.rest.head? == some c

/-- Whether the character `offset` places ahead satisfies a test; the end of the text does not. -/
def test (cursor : Cursor) (offset : Nat) (p : Char → Bool) : Bool :=
  match cursor.rest[offset]? with
  | some c => p c
  | none => false

/-- Whether a blank, a line break or the end of the text is `offset` places ahead. -/
def blankEnd (cursor : Cursor) (offset : Nat) : Bool :=
  match cursor.rest[offset]? with
  | some c => isBlank c || isBreak c
  | none => true

/-- Whether a line break or the end of the text comes next. -/
def lineEnd (cursor : Cursor) : Bool :=
  match cursor.rest with
  | c :: _ => isBreak c
  | [] => true

/-- Steps over a character of the line. -/
def skip (cursor : Cursor) : Cursor :=
  match cursor.rest with
  | [] => cursor
  | _ :: rest =>
    { cursor with rest, index := cursor.index + 1, column := cursor.column + 1 }

/-- Steps over several characters of the line. -/
def skipMany : Nat → Cursor → Cursor
  | 0, cursor => cursor
  | count + 1, cursor => skipMany count cursor.skip

/-- Steps over a line break, and answers what it stands for in a scalar: a line feed, but the two
separators stand for themselves. -/
def takeBreak (cursor : Cursor) : List Char × Cursor :=
  let next (width : Nat) (rest : List Char) : Cursor :=
    { rest, index := cursor.index + width, line := cursor.line + 1, column := 0 }
  match cursor.rest with
  | '\r' :: '\n' :: rest => (['\n'], next 2 rest)
  | c :: rest =>
    if c == '\u2028' || c == '\u2029' then ([c], next 1 rest)
    else if isBreak c then (['\n'], next 1 rest)
    else ([], cursor)
  | [] => ([], cursor)

/-- Steps over the characters that satisfy a test. -/
def skipWhile (p : Char → Bool) (cursor : Cursor) : Cursor :=
  skipMany (cursor.rest.takeWhile p).length cursor

/-- The longest run of characters that satisfy a test, and the position after it. -/
def takeWhile (p : Char → Bool) (cursor : Cursor) : List Char × Cursor :=
  (cursor.rest.takeWhile p, cursor.skipWhile p)

/-- Whether the line begins here with three times the given character and nothing joined to it. -/
def isMarker (cursor : Cursor) (c : Char) : Bool :=
  cursor.column == 0 && cursor.test 0 (· == c) && cursor.test 1 (· == c) &&
    cursor.test 2 (· == c) && cursor.blankEnd 3

/-- Whether the line begins with a document marker. -/
def isDocumentMarker (cursor : Cursor) : Bool := cursor.isMarker '-' || cursor.isMarker '.'

end Cursor

end ApiStub.Yaml
