import ApiStub.Text.Digits

/-!
# Blanks, strings and keys of TOML

Readers of the parts that a TOML line is made of. Each takes the remaining characters and answers
what it read with what follows. A line ends at a line feed with or without a carriage return
before it; a carriage return alone is an error, and so is every other control character but a tab.
-/

namespace ApiStub.Toml

/-- A space or a tab. -/
def isSpace (c : Char) : Bool := c == ' ' || c == '\t'

/-- A character that may stand in a comment: anything but control characters, a tab excepted. -/
def isCommentChar (c : Char) : Bool := c == '\t' || (' ' ≤ c && c != '\x7f')

/-- A character that may stand for itself between the given quotes. -/
def isPlain (quote c : Char) : Bool := isCommentChar c && c != quote

/-- Drops spaces and tabs. -/
def skipSpace (input : List Char) : List Char := input.dropWhile isSpace

/-- Reads the end of a line. -/
def readBreak : List Char → Option (List Char)
  | '\n' :: rest => some rest
  | '\r' :: '\n' :: rest => some rest
  | _ => none

/-- Drops a comment, if one begins here. -/
def skipComment : List Char → List Char
  | '#' :: rest => rest.dropWhile isCommentChar
  | rest => rest

/-- Reads what may follow on a line: blanks, a comment, and the end of the line or the text. -/
def endLine (input : List Char) : Option (List Char) :=
  match skipComment (skipSpace input) with
  | [] => some []
  | rest => readBreak rest

/-- Drops blanks, line ends and comments. -/
def skipTrivia : Nat → List Char → List Char
  | 0, input => input
  | fuel + 1, input =>
    match input with
    | [] => []
    | c :: rest =>
      if isSpace c then skipTrivia fuel rest
      else if c == '#' then skipTrivia fuel (skipComment input)
      else
        match readBreak input with
        | some rest => skipTrivia fuel rest
        | none => input

/-- Reads a code point of so many hexadecimal digits. -/
def readCodePoint (count : Nat) (input : List Char) : Option (Char × List Char) := do
  if input.length < count then none
  else
    let code ← Text.ofBase? 16 (input.take count)
    if code.isValidChar then some (Char.ofNat code, input.drop count) else none

/-- Reads an escape after its backslash. -/
def readEscape (input : List Char) : Option (Char × List Char) :=
  match input with
  | 'b' :: rest => some ('\x08', rest)
  | 'f' :: rest => some ('\x0c', rest)
  | 'n' :: rest => some ('\n', rest)
  | 'r' :: rest => some ('\r', rest)
  | 't' :: rest => some ('\t', rest)
  | '\\' :: rest => some ('\\', rest)
  | '"' :: rest => some ('"', rest)
  | 'u' :: rest => readCodePoint 4 rest
  | 'U' :: rest => readCodePoint 8 rest
  | _ => none

/-- Reads a string of one line up to its closing quote. Escapes count between double quotes only.
`done` holds what has been read, in reverse. -/
def readLineString (quote : Char) : Nat → List Char → List Char → Option (String × List Char)
  | 0, _, _ => none
  | fuel + 1, done, input =>
    match input with
    | [] => none
    | c :: rest =>
      if c == quote then some (String.ofList done.reverse, rest)
      else if c == '\\' && quote == '"' then do
        let (c, rest) ← readEscape rest
        readLineString quote fuel (c :: done) rest
      else if isPlain quote c then readLineString quote fuel (c :: done) rest
      else none

/-- Reads a line end behind a backslash, with all blanks and line ends after it. -/
def readContinuation (input : List Char) : Option (List Char) :=
  (readBreak (skipSpace input)).map fun rest =>
    rest.dropWhile fun c => isSpace c || c == '\n' || c == '\r'

/-- Reads a string of several lines up to its three closing quotes. One or two quotes more right
before them belong to the string. -/
def readBlockString (quote : Char) : Nat → List Char → List Char → Option (String × List Char)
  | 0, _, _ => none
  | fuel + 1, done, input =>
    match input with
    | [] => none
    | c :: rest =>
      if c == quote then
        let count := min 5 (input.takeWhile (· == quote)).length
        let rest := input.drop count
        if count < 3 then readBlockString quote fuel (List.replicate count quote ++ done) rest
        else some (String.ofList (List.replicate (count - 3) quote ++ done).reverse, rest)
      else if c == '\\' && quote == '"' then
        match readContinuation rest with
        | some rest => readBlockString quote fuel done rest
        | none => do
          let (c, rest) ← readEscape rest
          readBlockString quote fuel (c :: done) rest
      else if isPlain quote c then readBlockString quote fuel (c :: done) rest
      else
        match readBreak input with
        | some rest => readBlockString quote fuel ('\n' :: done) rest
        | none => none

/-- Reads a string that begins with the given quote. A line end right after three opening quotes
is no part of it. -/
def readString (quote : Char) (input : List Char) : Option (String × List Char) :=
  match input with
  | a :: b :: c :: rest =>
    if a == quote && b == quote && c == quote then
      readBlockString quote (rest.length + 1) [] ((readBreak rest).getD rest)
    else if a == quote then readLineString quote input.length [] (b :: c :: rest)
    else none
  | a :: rest => if a == quote then readLineString quote input.length [] rest else none
  | [] => none

/-- A character that may stand in a key without quotes. -/
def isBareKeyChar (c : Char) : Bool := c.isAlphanum || c == '_' || c == '-'

/-- Reads one part of a key. -/
def readKeyPart (input : List Char) : Option (String × List Char) :=
  match input with
  | '"' :: rest => readLineString '"' input.length [] rest
  | '\'' :: rest => readLineString '\'' input.length [] rest
  | _ =>
    let part := input.takeWhile isBareKeyChar
    if part.isEmpty then none else some (String.ofList part, input.dropWhile isBareKeyChar)

/-- Reads the parts of a key, which points separate. Blanks around a part do not count. -/
def readKeyParts : Nat → List Char → Option (List String × List Char)
  | 0, _ => none
  | fuel + 1, input => do
    let (part, rest) ← readKeyPart (skipSpace input)
    match skipSpace rest with
    | '.' :: rest =>
      let (parts, rest) ← readKeyParts fuel rest
      some (part :: parts, rest)
    | rest => some ([part], rest)

/-- Tables and arrays may be nested less deep than this, and a key has fewer parts. -/
def depthLimit : Nat := 80

/-- Reads a key: the parts before the last, and the last. -/
def readKey (input : List Char) : Option ((List String × String) × List Char) := do
  let (parts, rest) ← readKeyParts depthLimit input
  if parts.length < depthLimit then some ((parts.dropLast, parts.getLastD ""), rest) else none

end ApiStub.Toml
