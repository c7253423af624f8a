import ApiStub.Yaml.Scalar
import ApiStub.Yaml.Token

/-!
# From text to tokens

`tokens?` reads a whole stream. Two things make the grammar of YAML hard to read from left to
right, and both are state of the lexer. Indentation opens and closes block collections: the
columns of the open ones form a stack. And what begins a line may turn out to be a key only when
its colon comes: each open flow collection, and the block around them, remembers where its last
possible key began, and the colon puts the missing tokens there.
-/

namespace ApiStub.Yaml

/-- A place where a key may have begun. -/
structure PossibleKey where
  /-- Whether the line makes no sense unless it is a key. -/
  required : Bool
  /-- How many tokens come before it. -/
  tokenIndex : Nat
  /-- How many characters of the text come before it. -/
  index : Nat
  /-- Its line. -/
  line : Nat
  /-- Its column. -/
  column : Nat

/-- The state of the lexer. -/
structure Lexer where
  /-- The rest of the text. -/
  cursor : Cursor
  /-- The tokens so far. -/
  tokens : Array Token := #[]
  /-- The column of the innermost open block collection, `-1` outside all. -/
  indent : Int := -1
  /-- The columns of the block collections around it. -/
  indents : List Int := []
  /-- The possible key of the block level and of each open flow collection, innermost first. -/
  keys : List (Option PossibleKey) := [none]
  /-- Whether a key may begin here. -/
  keyAllowed : Bool := true

namespace Lexer

/-- Whether a flow collection is open. -/
def inFlow (lexer : Lexer) : Bool := lexer.keys.length > 1

/-- Adds a token at the end. -/
def emit (lexer : Lexer) (token : Token) : Lexer :=
  { lexer with tokens := lexer.tokens.push token }

/-- Adds a token before the one at an index. -/
def insertAt (lexer : Lexer) (index : Nat) (token : Token) : Lexer :=
  { lexer with tokens := lexer.tokens.insertIdxIfInBounds index token }

/-- Steps over characters of the line. -/
def advance (lexer : Lexer) (count : Nat) : Lexer :=
  { lexer with cursor := lexer.cursor.skipMany count }

/-- Closes the block collections that are deeper than a column. -/
def closeDeeper (column : Int) : List Int → Lexer → Lexer
  | [], lexer => lexer
  | outer :: rest, lexer =>
    if lexer.indent > column then
      closeDeeper column rest { lexer.emit .blockEnd with indent := outer, indents := rest }
    else lexer

/-- Closes the block collections that are deeper than a column. Inside a flow collection
indentation means nothing. -/
def unroll (lexer : Lexer) (column : Int) : Lexer :=
  if lexer.inFlow then lexer else closeDeeper column lexer.indents lexer

/-- Opens a block collection at a column that is deeper than the innermost one, with its start
token at the given index, by default at the end. -/
def roll (lexer : Lexer) (column : Nat) (start : Token) (index : Option Nat := none) : Lexer :=
  if !lexer.inFlow && lexer.indent < column then
    { lexer.insertAt (index.getD lexer.tokens.size) start with
      indent := column, indents := lexer.indent :: lexer.indents }
  else lexer

/-- Forgets the possible key of the innermost level; a required one must not be forgotten. -/
def dropKey (lexer : Lexer) : Option Lexer :=
  match lexer.keys with
  | some key :: rest => if key.required then none else some { lexer with keys := none :: rest }
  | _ => some lexer

/-- Remembers that a key may begin here. It is required when the line stands at the column of the
innermost block collection. -/
def saveKey (lexer : Lexer) : Option Lexer :=
  if lexer.keyAllowed then
    (lexer.dropKey).map fun lexer =>
      let key : PossibleKey :=
        { required := !lexer.inFlow && lexer.indent == (lexer.cursor.column : Int)
          tokenIndex := lexer.tokens.size
          index := lexer.cursor.index
          line := lexer.cursor.line
          column := lexer.cursor.column }
      { lexer with keys := some key :: lexer.keys.drop 1 }
  else some lexer

/-- Whether a possible key is out of reach: a key ends on its line, within 1024 characters. -/
def PossibleKey.stale (key : PossibleKey) (cursor : Cursor) : Bool :=
  key.line < cursor.line || key.index + 1024 < cursor.index

/-- Forgets the possible keys that are out of reach. -/
def dropStaleKeys (lexer : Lexer) : Option Lexer :=
  let stale := fun key => PossibleKey.stale key lexer.cursor
  if lexer.keys.any fun key => key.any fun key => stale key && key.required then none
  else some { lexer with keys := lexer.keys.map fun key => key.filter fun key => !stale key }

/-- Consumes blanks, comments and line breaks up to the next token. A tab may not stand where a key
may begin. A new line of a block may begin a key. -/
def skipToToken : Nat → Lexer → Lexer
  | 0, lexer => lexer
  | fuel + 1, lexer =>
    let cursor := lexer.cursor
    let cursor := if cursor.column == 0 && cursor.nextIs '\uFEFF' then cursor.skip else cursor
    let tabs := lexer.inFlow || !lexer.keyAllowed
    let cursor := cursor.skipWhile fun c => c == ' ' || (tabs && c == '\t')
    let cursor :=
      if cursor.nextIs '#' then cursor.skipWhile (fun c => !isBreak c) else cursor
    if cursor.test 0 isBreak then
      skipToToken fuel
        { lexer with cursor := cursor.takeBreak.2, keyAllowed := lexer.keyAllowed || !lexer.inFlow }
    else { lexer with cursor }

/-- A number of at most nine digits. -/
def takeNumber (cursor : Cursor) : Option (Nat × Cursor) :=
  let (digits, cursor) := cursor.takeWhile Char.isDigit
  if digits.isEmpty || 9 < digits.length then none
  else some (Text.decimal digits, cursor)

/-- One byte as `%` and two hexadecimal digits. -/
def takeEscapedByte (cursor : Cursor) : Option (Nat × Cursor) :=
  if cursor.nextIs '%' then takeHex 2 0 cursor.skip else none

/-- The continuation bytes of an escaped character. -/
def takeEscapedBytes : Nat → Nat → Cursor → Option (Nat × Cursor)
  | 0, code, cursor => some (code, cursor)
  | count + 1, code, cursor =>
    (takeEscapedByte cursor).bind fun (byte, cursor) =>
      if byte / 64 == 2 then takeEscapedBytes count (code * 64 + byte % 64) cursor else none

/-- A character of a tag whose UTF-8 bytes are escaped. -/
def takeEscapedChar (cursor : Cursor) : Option (Char × Cursor) :=
  (takeEscapedByte cursor).bind fun (byte, cursor) =>
    let lead : Option (Nat × Nat) :=
      if byte < 0x80 then some (0, byte)
      else if byte / 32 == 6 then some (1, byte % 32)
      else if byte / 16 == 14 then some (2, byte % 16)
      else if byte / 8 == 30 then some (3, byte % 8)
      else none
    lead.bind fun (count, bits) =>
      (takeEscapedBytes count bits cursor).map fun (code, cursor) => (Char.ofNat code, cursor)

/-- A character that a tag may hold; a verbatim tag may hold three more. -/
def isTagChar (verbatim : Bool) (c : Char) : Bool :=
  isNameChar c || ";/?:@&=+$.!~*'()".toList.contains c ||
    (verbatim && (c == ',' || c == '[' || c == ']'))

/-- The characters of a tag, in reverse. -/
def takeTagChars (verbatim : Bool) : Nat → List Char → Cursor → Option (List Char × Cursor)
  | 0, done, cursor => some (done, cursor)
  | fuel + 1, done, cursor =>
    match cursor.head? with
    | none => some (done, cursor)
    | some c =>
      if c == '%' then
        (takeEscapedChar cursor).bind fun (c, cursor) =>
          takeTagChars verbatim fuel (c :: done) cursor
      else if isTagChar verbatim c then takeTagChars verbatim fuel (c :: done) cursor.skip
      else some (done, cursor)

/-- The rest of a tag. It must not be empty, unless something of it was read already. -/
def takeTagRest (verbatim started : Bool) (done : List Char) (cursor : Cursor) :
    Option (String × Cursor) :=
  (takeTagChars verbatim (cursor.rest.length + 1) [] cursor).bind fun (chars, after) =>
    if chars.isEmpty && !started then none
    else some (String.ofList ((chars ++ done).reverse), after)

/-- What may be a tag handle: an exclamation mark, a name, and a second exclamation mark if there
is one. -/
def takeTagHandle (cursor : Cursor) : Option (List Char × Cursor) :=
  if cursor.nextIs '!' then
    let (name, cursor) := cursor.skip.takeWhile isNameChar
    if cursor.nextIs '!' then some ('!' :: (name ++ ['!']), cursor.skip)
    else some ('!' :: name, cursor)
  else none

/-- A tag as its handle and suffix. -/
def takeTag (cursor : Cursor) : Option (Token × Cursor) :=
  if cursor.test 1 (· == '<') then
    (takeTagRest true false [] (cursor.skipMany 2)).bind fun (suffix, cursor) =>
      if cursor.nextIs '>' then some (.tag "" suffix, cursor.skip) else none
  else
    (takeTagHandle cursor).bind fun (handle, cursor) =>
      if handle.length > 1 && handle.getLast? == some '!' then
        (takeTagRest false false [] cursor).map fun (suffix, cursor) =>
          (.tag (String.ofList handle) suffix, cursor)
      else
        (takeTagRest false true (handle.drop 1).reverse cursor).map fun (suffix, cursor) =>
          if suffix.isEmpty then (.tag "" "!", cursor) else (.tag "!" suffix, cursor)

/-- A directive line, from its percent sign. -/
def takeDirective (cursor : Cursor) : Option (Token × Cursor) := do
  let (name, cursor) := cursor.skip.takeWhile isNameChar
  if name.isEmpty || !cursor.blankEnd 0 then none
  else
    let cursor := cursor.skipWhile isBlank
    let (token, cursor) ←
      match String.ofList name with
      | "YAML" => do
        let (major, cursor) ← takeNumber cursor
        if cursor.nextIs '.' then
          let (minor, cursor) ← takeNumber cursor.skip
          some (Token.versionDirective major minor, cursor)
        else none
      | "TAG" => do
        let (handle, cursor) ← takeTagHandle cursor
        if handle != ['!'] && (handle.length == 1 || handle.getLast? != some '!') then none
        else if !cursor.test 0 isBlank then none
        else
          let (leading, cursor) ← takeTagRest true false [] (cursor.skipWhile isBlank)
          if cursor.blankEnd 0 then
            some (Token.tagDirective (String.ofList handle) leading, cursor)
          else none
      | _ => none
    let cursor := cursor.skipWhile isBlank
    let cursor := if cursor.nextIs '#' then cursor.skipWhile (fun c => !isBreak c) else cursor
    if cursor.lineEnd then some (token, cursor.takeBreak.2) else none

/-- The name of an anchor or alias, from its indicator. -/
def takeName (cursor : Cursor) : Option (String × Cursor) :=
  let (name, cursor) := cursor.skip.takeWhile isNameChar
  let ends := cursor.blankEnd 0 || cursor.test 0 fun c => "?:,]\x7d%@\x60".toList.contains c
  if name.isEmpty || !ends then none else some (String.ofList name, cursor)

/-- Adds a token that was read and goes on after it. -/
def accept (lexer : Lexer) (keyAllowed : Bool) (read : Token × Cursor) : Lexer :=
  { lexer.emit read.1 with cursor := read.2, keyAllowed }

/-- A token that ends everything open and begins a line: a directive or a document marker. -/
def readTopLevel (lexer : Lexer) (read : Option (Token × Cursor)) : Option Lexer := do
  let lexer ← (lexer.unroll (-1)).dropKey
  let read ← read
  some (lexer.accept false read)

/-- The start of a flow collection, which may itself be a key. -/
def openFlow (lexer : Lexer) (token : Token) : Option Lexer := do
  let lexer ← lexer.saveKey
  let lexer := { lexer with keys := none :: lexer.keys, keyAllowed := true }
  some ((lexer.emit token).advance 1)

/-- The end of a flow collection. -/
def closeFlow (lexer : Lexer) (token : Token) : Option Lexer := do
  let lexer ← lexer.dropKey
  let keys := if lexer.inFlow then lexer.keys.drop 1 else lexer.keys
  some (({ lexer with keys, keyAllowed := false }.emit token).advance 1)

/-- A comma of a flow collection. -/
def readFlowEntry (lexer : Lexer) : Option Lexer := do
  let lexer ← lexer.dropKey
  some (({ lexer with keyAllowed := true }.emit .flowEntry).advance 1)

/-- The hyphen before an item of a block sequence. -/
def readBlockEntry (lexer : Lexer) : Option Lexer := do
  if !lexer.inFlow && !lexer.keyAllowed then none
  else
    let lexer ← (lexer.roll lexer.cursor.column .blockSequenceStart).dropKey
    some (({ lexer with keyAllowed := true }.emit .blockEntry).advance 1)

/-- The question mark before a key. -/
def readKey (lexer : Lexer) : Option Lexer := do
  if !lexer.inFlow && !lexer.keyAllowed then none
  else
    let lexer ← (lexer.roll lexer.cursor.column .blockMappingStart).dropKey
    some (({ lexer with keyAllowed := !lexer.inFlow }.emit .key).advance 1)

/-- The colon after a key. If a key may have begun on this level, it did: its token goes there, and
before it the start of a block mapping when it is the first key of one. -/
def readColon (lexer : Lexer) : Option Lexer :=
  match lexer.keys with
  | some key :: rest =>
    let lexer := (lexer.insertAt key.tokenIndex .key).roll key.column .blockMappingStart
      key.tokenIndex
    some (({ lexer with keys := none :: rest, keyAllowed := false }.emit .value).advance 1)
  | _ =>
    if !lexer.inFlow && !lexer.keyAllowed then none
    else
      let lexer := lexer.roll lexer.cursor.column .blockMappingStart
      some (({ lexer with keyAllowed := !lexer.inFlow }.emit .value).advance 1)

/-- An anchor, alias or tag, which may begin a key. -/
def readProperty (lexer : Lexer) (read : Option (Token × Cursor)) : Option Lexer := do
  let lexer ← lexer.saveKey
  some (lexer.accept false (← read))

/-- A tag, which ends before white space, or before a comma of a flow collection. -/
def readTag (lexer : Lexer) : Option Lexer :=
  lexer.readProperty ((takeTag lexer.cursor).bind fun (token, cursor) =>
    if cursor.blankEnd 0 || (lexer.inFlow && cursor.nextIs ',') then some (token, cursor) else none)

/-- A block scalar, which is no key. -/
def readBlockScalar (lexer : Lexer) (literal : Bool) : Option Lexer := do
  let lexer ← lexer.dropKey
  let (text, cursor) ← takeBlock literal lexer.indent lexer.cursor.skip
  some (lexer.accept true (.scalar text false, cursor))

/-- A quoted scalar, which may be a key. -/
def readQuoted (lexer : Lexer) (quote : Char) : Option Lexer := do
  let lexer ← lexer.saveKey
  let (text, cursor) ← takeQuoted quote (lexer.cursor.rest.length + 1) [] lexer.cursor.skip
  some (lexer.accept false (.scalar text false, cursor))

/-- A plain scalar, which may be a key. One that a line break ends leaves room for a key. -/
def readPlain (lexer : Lexer) : Option Lexer := do
  let lexer ← lexer.saveKey
  let (text, broken, cursor) ←
    takePlain lexer.inFlow (lexer.indent + 1).toNat (lexer.cursor.rest.length + 1) [] {}
      lexer.cursor
  some (lexer.accept broken (.scalar text true, cursor))

/-- Characters that begin no plain scalar. -/
def isIndicator (c : Char) : Bool :=
  "-?:,[]\x7b\x7d#&*!|>'\"%@\x60".toList.contains c

/-- Whether a plain scalar begins here. -/
def plainStarts (lexer : Lexer) (c : Char) : Bool :=
  !(isBlank c || isBreak c || isIndicator c) ||
    (c == '-' && !lexer.cursor.test 1 isBlank) ||
    (!lexer.inFlow && (c == '?' || c == ':') && !lexer.cursor.blankEnd 1)

/-- Reads the next token, whose first character is given. -/
def readToken (lexer : Lexer) (c : Char) : Option Lexer :=
  let cursor := lexer.cursor
  let spaced := lexer.inFlow || cursor.blankEnd 1
  if cursor.column == 0 && c == '%' then lexer.readTopLevel (takeDirective cursor)
  else if cursor.isMarker '-' then lexer.readTopLevel (some (.documentStart, cursor.skipMany 3))
  else if cursor.isMarker '.' then lexer.readTopLevel (some (.documentEnd, cursor.skipMany 3))
  else if c == '[' then lexer.openFlow .flowSequenceStart
  else if c == '\x7b' then lexer.openFlow .flowMappingStart
  else if c == ']' then lexer.closeFlow .flowSequenceEnd
  else if c == '\x7d' then lexer.closeFlow .flowMappingEnd
  else if c == ',' then lexer.readFlowEntry
  else if c == '-' && cursor.blankEnd 1 then lexer.readBlockEntry
  else if c == '?' && spaced then lexer.readKey
  else if c == ':' && spaced then lexer.readColon
  else if c == '*' then
    lexer.readProperty ((takeName cursor).map fun (name, cursor) => (.alias name, cursor))
  else if c == '&' then
    lexer.readProperty ((takeName cursor).map fun (name, cursor) => (.anchor name, cursor))
  else if c == '!' then lexer.readTag
  else if c == '|' && !lexer.inFlow then lexer.readBlockScalar true
  else if c == '>' && !lexer.inFlow then lexer.readBlockScalar false
  else if c == '\'' || c == '"' then lexer.readQuoted c
  else if lexer.plainStarts c then lexer.readPlain
  else none

/-- Reads tokens to the end of the stream, at most `fuel` of them. -/
def run : Nat → Lexer → Option (List Token)
  | 0, _ => none
  | fuel + 1, lexer =>
    match (skipToToken (lexer.cursor.rest.length + 1) lexer).dropStaleKeys with
    | none => none
    | some lexer =>
      let lexer := lexer.unroll lexer.cursor.column
      match lexer.cursor.head? with
      | none => ((lexer.unroll (-1)).dropKey).map fun lexer => lexer.tokens.toList
      | some c => (lexer.readToken c).bind (run fuel)

end Lexer

/-- The tokens of a stream; `none` when its text is malformed. -/
def tokens? (text : String) : Option (List Token) :=
  let chars := text.toList
  if chars.all isAllowed then Lexer.run (chars.length + 1) { cursor := { rest := chars } } else none

end ApiStub.Yaml
