import ApiStub.Text.Digits
import ApiStub.Yaml.Cursor

/-!
# Scalars in a YAML text

How the text of a scalar is read off the stream in its four styles: quoted with escapes, quoted
without, in a block, and plain. Line breaks inside a flow scalar fold: one becomes a space, and of
several the first is dropped.
-/

namespace ApiStub.Yaml

/-- White space met inside a flow scalar, kept until the next character shows what it is worth.
Lists are in reverse. -/
structure Gap where
  /-- Whether a line has ended. -/
  broken : Bool := false
  /-- Blanks of the first line. -/
  blanks : List Char := []
  /-- The first line break. -/
  first : List Char := []
  /-- Line breaks after the first. -/
  later : List Char := []

namespace Gap

/-- What the gap is worth between two parts of a scalar, in reverse. -/
def joined (gap : Gap) : List Char :=
  if gap.broken then
    if gap.first == ['\n'] then
      if gap.later.isEmpty then [' '] else gap.later
    else gap.later ++ gap.first
  else gap.blanks

end Gap

/-- Consumes the blanks and line breaks that come next. In a plain scalar a tab may not stand
where indentation is due, that is, left of column `indent`. -/
def takeGap (indent : Option Nat) : Nat → Gap → Cursor → Option (Gap × Cursor)
  | 0, gap, cursor => some (gap, cursor)
  | fuel + 1, gap, cursor =>
    match cursor.rest with
    | [] => some (gap, cursor)
    | c :: _ =>
      if isBlank c then
        if gap.broken then
          if c == '\t' && indent.any (cursor.column < ·) then none
          else takeGap indent fuel gap cursor.skip
        else takeGap indent fuel { gap with blanks := c :: gap.blanks } cursor.skip
      else if isBreak c then
        let (newline, cursor) := cursor.takeBreak
        if gap.broken then
          takeGap indent fuel { gap with later := newline ++ gap.later } cursor
        else
          takeGap indent fuel { gap with broken := true, blanks := [], first := newline } cursor
      else some (gap, cursor)

/-- The number spelled by exactly `count` hexadecimal digits. -/
def takeHex : Nat → Nat → Cursor → Option (Nat × Cursor)
  | 0, value, cursor => some (value, cursor)
  | count + 1, value, cursor =>
    (cursor.head?.bind Text.hexDigit?).bind fun digit =>
      takeHex count (value * 16 + digit) cursor.skip

/-- What follows a backslash in a quoted scalar. -/
inductive Escape where
  /-- A character of its own. -/
  | char (c : Char)
  /-- A code point in this many hexadecimal digits. -/
  | code (digits : Nat)

/-- The escape that a letter names. -/
def Escape.ofChar? (c : Char) : Option Escape :=
  match c with
  | '0' => some (.char '\x00')
  | 'a' => some (.char '\x07')
  | 'b' => some (.char '\x08')
  | 't' | '\t' => some (.char '\t')
  | 'n' => some (.char '\n')
  | 'v' => some (.char '\x0b')
  | 'f' => some (.char '\x0c')
  | 'r' => some (.char '\r')
  | 'e' => some (.char '\x1b')
  | ' ' | '"' | '/' | '\\' => some (.char c)
  | 'N' => some (.char '\u0085')
  | '_' => some (.char '\u00a0')
  | 'L' => some (.char '\u2028')
  | 'P' => some (.char '\u2029')
  | 'x' => some (.code 2)
  | 'u' => some (.code 4)
  | 'U' => some (.code 8)
  | _ => none

/-- The character of an escape; the position is after the backslash. -/
def takeEscape (cursor : Cursor) : Option (Char × Cursor) := do
  let letter ← cursor.head?
  match ← Escape.ofChar? letter with
  | .char c => some (c, cursor.skip)
  | .code digits =>
    let (code, cursor) ← takeHex digits 0 cursor.skip
    if (0xD800 ≤ code && code ≤ 0xDFFF) || 0x10FFFF < code then none
    else some (Char.ofNat code, cursor)

/-- The rest of a quoted scalar after its opening quote. `done` holds the text so far in reverse. -/
def takeQuoted (quote : Char) : Nat → List Char → Cursor → Option (String × Cursor)
  | 0, _, _ => none
  | fuel + 1, done, cursor =>
    if cursor.isDocumentMarker then none
    else
      match cursor.rest with
      | [] => none
      | c :: rest =>
        if c == quote then
          if quote == '\'' && rest.head? == some '\'' then
            takeQuoted quote fuel ('\'' :: done) (cursor.skipMany 2)
          else some (String.ofList done.reverse, cursor.skip)
        else if c == '\\' && quote == '"' then
          if cursor.test 1 isBreak then
            let (_, cursor) := cursor.skip.takeBreak
            match takeGap none cursor.rest.length { broken := true } cursor with
            | some (gap, cursor) => takeQuoted quote fuel (gap.joined ++ done) cursor
            | none => none
          else
            match takeEscape cursor.skip with
            | some (c, cursor) => takeQuoted quote fuel (c :: done) cursor
            | none => none
        else if isBlank c || isBreak c then
          match takeGap none cursor.rest.length {} cursor with
          | some (gap, cursor) => takeQuoted quote fuel (gap.joined ++ done) cursor
          | none => none
        else takeQuoted quote fuel (c :: done) cursor.skip

/-- Characters that structure a flow collection. -/
def isFlowIndicator (c : Char) : Bool :=
  c == ',' || c == '[' || c == ']' || c == '\x7b' || c == '\x7d'

/-- A plain scalar. `gap` is the white space before the current position that has not proved to
belong to the scalar; the answer tells whether a line ended in it. -/
def takePlain (flow : Bool) (indent : Nat) :
    Nat → List Char → Gap → Cursor → Option (String × Bool × Cursor)
  | 0, _, _, _ => none
  | fuel + 1, done, gap, cursor =>
    let finish := some (String.ofList done.reverse, gap.broken, cursor)
    match cursor.rest with
    | [] => finish
    | c :: rest =>
      if isBlank c || isBreak c then
        match takeGap (some indent) cursor.rest.length {} cursor with
        | none => none
        | some (gap, cursor) =>
          if (!flow && cursor.column < indent) || cursor.isDocumentMarker || cursor.nextIs '#' then
            some (String.ofList done.reverse, gap.broken, cursor)
          else takePlain flow indent fuel done gap cursor
      else if flow && c == ':' && rest.head?.any fun d => isFlowIndicator d || d == '?' then none
      else if (c == ':' && cursor.blankEnd 1) || (flow && isFlowIndicator c) then finish
      else takePlain flow indent fuel (c :: (gap.joined ++ done)) {} cursor.skip

/-- What is kept of the line breaks at the end of a block scalar. -/
inductive Chomping where
  | strip
  | clip
  | keep
  deriving DecidableEq

/-- The header of a block scalar: chomping and an explicit indentation, in either order. -/
def takeBlockHeader (cursor : Cursor) : Option (Chomping × Option Nat × Cursor) :=
  let chomping? (cursor : Cursor) : Option (Chomping × Cursor) :=
    if cursor.nextIs '+' then some (.keep, cursor.skip)
    else if cursor.nextIs '-' then some (.strip, cursor.skip)
    else none
  let digit? (cursor : Cursor) : Option (Nat × Cursor) :=
    match cursor.head? with
    | some c => if c.isDigit then some (Text.digitValue c, cursor.skip) else none
    | none => none
  let positive : Chomping × Option Nat × Cursor → Option (Chomping × Option Nat × Cursor)
    | (_, some 0, _) => none
    | header => some header
  match chomping? cursor with
  | some (chomping, cursor) =>
    match digit? cursor with
    | some (increment, cursor) => positive (chomping, some increment, cursor)
    | none => some (chomping, none, cursor)
  | none =>
    match digit? cursor with
    | some (increment, cursor) =>
      match chomping? cursor with
      | some (chomping, cursor) => positive (chomping, some increment, cursor)
      | none => positive (.clip, some increment, cursor)
    | none => some (.clip, none, cursor)

/-- Consumes empty lines and the indentation of the next line, `indent` columns at most when it is
known. Answers the line breaks in reverse and the deepest column reached. -/
def takeBlockBreaks (indent : Option Nat) :
    Nat → Nat → List Char → Cursor → Option (Nat × List Char × Cursor)
  | 0, deepest, breaks, cursor => some (deepest, breaks, cursor)
  | fuel + 1, deepest, breaks, cursor =>
    let below (cursor : Cursor) : Bool := indent.all (cursor.column < ·)
    let spaces := (cursor.rest.takeWhile (· == ' ')).length
    let spaces := match indent with
      | some indent => min spaces (indent - cursor.column)
      | none => spaces
    let cursor := cursor.skipMany spaces
    let deepest := max deepest cursor.column
    if below cursor && cursor.nextIs '\t' then none
    else if cursor.test 0 isBreak then
      let (newline, cursor) := cursor.takeBreak
      takeBlockBreaks indent fuel deepest (newline ++ breaks) cursor
    else some (deepest, breaks, cursor)

/-- State between two lines of a block scalar; lists are in reverse. -/
structure BlockLines where
  /-- The text so far. -/
  done : List Char := []
  /-- The break that ended the last line. -/
  leading : List Char := []
  /-- The empty lines after it. -/
  trailing : List Char := []
  /-- Whether the last line began with a blank. -/
  indented : Bool := false

/-- The lines of a block scalar at column `indent`. In a folded scalar the break between two lines
that begin with no blank is a space, or nothing when empty lines follow. -/
def takeBlockLines (literal : Bool) (indent : Nat) :
    Nat → BlockLines → Cursor → Option (BlockLines × Cursor)
  | 0, lines, cursor => some (lines, cursor)
  | fuel + 1, lines, cursor =>
    if cursor.column == indent && !cursor.rest.isEmpty then
      let blank := cursor.test 0 isBlank
      let join :=
        if !literal && lines.leading == ['\n'] && !lines.indented && !blank then
          if lines.trailing.isEmpty then [' '] else []
        else lines.leading
      let (line, cursor) := cursor.takeWhile fun c => !isBreak c
      let (newline, cursor) := cursor.takeBreak
      match takeBlockBreaks (some indent) (cursor.rest.length + 1) 0 [] cursor with
      | none => none
      | some (_, trailing, cursor) =>
        let lines : BlockLines :=
          { done := line.reverse ++ (lines.trailing ++ (join ++ lines.done))
            leading := newline, trailing, indented := blank }
        takeBlockLines literal indent fuel lines cursor
    else some (lines, cursor)

/-- A block scalar after its indicator; `indent` is the indentation of the block around it, `-1`
at the top. -/
def takeBlock (literal : Bool) (parent : Int) (cursor : Cursor) : Option (String × Cursor) := do
  let (chomping, increment, cursor) ← takeBlockHeader cursor
  let cursor := cursor.skipWhile isBlank
  let cursor := if cursor.nextIs '#' then cursor.skipWhile (fun c => !isBreak c) else cursor
  if !cursor.lineEnd then none
  else
    let (_, cursor) := cursor.takeBreak
    let explicit : Option Nat := increment.map fun increment => (max parent 0).toNat + increment
    let (deepest, trailing, cursor) ←
      takeBlockBreaks explicit (cursor.rest.length + 1) 0 [] cursor
    let indent := explicit.getD (max deepest (max (parent + 1) 1).toNat)
    let (lines, cursor) ←
      takeBlockLines literal indent (cursor.rest.length + 1) { trailing } cursor
    let done := if chomping == .strip then lines.done else lines.leading ++ lines.done
    let done := if chomping == .keep then lines.trailing ++ done else done
    some (String.ofList done.reverse, cursor)

end ApiStub.Yaml
