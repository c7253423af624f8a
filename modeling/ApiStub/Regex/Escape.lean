import ApiStub.Regex.Basic
import ApiStub.Regex.Property

/-!
# Escapes

What a backslash introduces: a character, a class of characters, or a condition on a place. An
escape without a meaning is refused, and so are back-references.
-/

namespace ApiStub.Regex

/-- What an escape stands for. -/
inductive Escape where
  | literal (c : Char)
  | chars (set : CharClass)
  | look (condition : Look)
  deriving Inhabited

/-- Whether an escaped character stands for itself: any of ASCII but letters, digits and the
angle brackets. -/
def isPunctuation (c : Char) : Bool :=
  c.toNat < 128 && !c.isAlphanum && c != '<' && c != '>'

/-- The character whose code point is written in hexadecimal. -/
def charOfHex? (digits : List Char) : Option Char := do
  let code ← Text.ofBase? 16 digits
  if code.isValidChar then some (Char.ofNat code) else none

/-- Splits after the closing brace, without it. -/
def untilBrace (input : List Char) : Option (List Char × List Char) :=
  match input.dropWhile (· != '}') with
  | [] => none
  | _ :: rest => some (input.takeWhile (· != '}'), rest)

/-- Reads a code point: digits in braces, or as many digits as the escape wants. -/
def readHex (count : Nat) (input : List Char) : Option (Char × List Char) :=
  match input with
  | '{' :: rest => do
    let (digits, rest) ← untilBrace rest
    some (← charOfHex? digits, rest)
  | _ =>
    if input.length < count then none
    else (charOfHex? (input.take count)).map fun c => (c, input.drop count)

/-- Reads the name of a property: in braces, or one letter. -/
def readProperty (input : List Char) : Option (CharClass × List Char) :=
  match input with
  | [] => none
  | '{' :: rest => do
    let (query, rest) ← untilBrace rest
    some (← CharClass.ofQuery? query, rest)
  | c :: rest => if c == '\\' then none else (CharClass.ofName? [c]).map fun set => (set, rest)

/-- The condition that a name in braces after a word boundary stands for. -/
def Look.ofName? (name : String) : Option Look :=
  match name with
  | "start" => some .wordStart
  | "end" => some .wordEnd
  | "start-half" => some .wordStartHalf
  | "end-half" => some .wordEndHalf
  | _ => none

/-- Whether a character may stand in the name of a boundary. -/
def isBoundaryName (c : Char) : Bool := c.isAlpha || c == '-'

/-- Reads on after the escape for a word boundary. Braces with a letter name a kind of boundary;
other braces are a quantifier and are left. -/
def readBoundary (input : List Char) : Option (Look × List Char) :=
  match input with
  | ['{'] => none
  | '{' :: c :: rest =>
    if !isBoundaryName c then some (.wordBoundary, input)
    else
      match (c :: rest).dropWhile isBoundaryName with
      | '}' :: after =>
        (Look.ofName? (String.ofList ((c :: rest).takeWhile isBoundaryName))).map
          fun condition => (condition, after)
      | _ => none
  | _ => some (.wordBoundary, input)

/-- Reads an escape after its backslash. -/
def readEscape (input : List Char) : Option (Escape × List Char) :=
  match input with
  | [] => none
  | c :: rest =>
    let set (set : CharClass) : Option (Escape × List Char) := some (.chars set, rest)
    let literal (c : Char) : Option (Escape × List Char) := some (.literal c, rest)
    let look (condition : Look) : Option (Escape × List Char) := some (.look condition, rest)
    match c with
    | 'x' => (readHex 2 rest).map fun (c, rest) => (.literal c, rest)
    | 'u' => (readHex 4 rest).map fun (c, rest) => (.literal c, rest)
    | 'U' => (readHex 8 rest).map fun (c, rest) => (.literal c, rest)
    | 'p' => (readProperty rest).map fun (set, rest) => (.chars set, rest)
    | 'P' => (readProperty rest).map fun (set, rest) => (.chars (.complement set), rest)
    | 'd' => set .digit
    | 'D' => set (.complement .digit)
    | 's' => set .space
    | 'S' => set (.complement .space)
    | 'w' => set .word
    | 'W' => set (.complement .word)
    | 'a' => literal '\x07'
    | 'f' => literal '\x0c'
    | 't' => literal '\t'
    | 'n' => literal '\n'
    | 'r' => literal '\r'
    | 'v' => literal '\x0b'
    | 'A' => look .start
    | 'z' => look .finish
    | 'b' => (readBoundary rest).map fun (condition, rest) => (.look condition, rest)
    | 'B' => look .noWordBoundary
    | '<' => look .wordStart
    | '>' => look .wordEnd
    | c => if isPunctuation c then literal c else none

end ApiStub.Regex
