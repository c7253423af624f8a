import ApiStub.Toml.Lexical
import ApiStub.Toml.Number
import ApiStub.Toml.Tree

/-!
# Reading TOML

A document is a sequence of lines: entries, headers, comments and blank ones. Arrays may run over
several lines, inline tables may not.
-/

namespace ApiStub.Toml

/-- Reads the sign between a key and its value. -/
def readEquals : List Char → Option (List Char)
  | '=' :: rest => some (skipSpace rest)
  | _ => none

mutual

/-- Reads a value; `depth` levels of nesting are left. -/
def readValue : Nat → Nat → List Char → Option (Toml × List Char)
  | 0, _, _ => none
  | fuel + 1, depth, input =>
    match input with
    | '"' :: _ => (readString '"' input).map fun (text, rest) => (.string text, rest)
    | '\'' :: _ => (readString '\'' input).map fun (text, rest) => (.string text, rest)
    | '[' :: rest =>
      match depth with
      | 0 => none
      | depth + 1 => (readItems fuel depth rest).map fun (items, rest) => (.array items, rest)
    | '{' :: rest =>
      match depth with
      | 0 => none
      | depth + 1 =>
        match skipSpace rest with
        | '}' :: rest => some (.table [], rest)
        | rest => do
          let (pairs, rest) ← readPairs fuel depth rest
          some (← ofPairs? pairs, rest)
    | _ => readWord input

/-- Reads the items of an array up to its closing bracket. A comma may follow the last one. -/
def readItems : Nat → Nat → List Char → Option (List Toml × List Char)
  | 0, _, _ => none
  | fuel + 1, depth, input =>
    match skipTrivia (input.length + 1) input with
    | ']' :: rest => some ([], rest)
    | rest => do
      let (item, rest) ← readValue fuel depth rest
      match skipTrivia (rest.length + 1) rest with
      | ']' :: rest => some ([item], rest)
      | ',' :: rest =>
        let (items, rest) ← readItems fuel depth rest
        some (item :: items, rest)
      | _ => none

/-- Reads the entries of an inline table up to its closing brace. -/
def readPairs : Nat → Nat → List Char →
    Option (List ((List String × String) × Toml) × List Char)
  | 0, _, _ => none
  | fuel + 1, depth, input => do
    let (key, rest) ← readKey input
    let (value, rest) ← readValue fuel depth (← readEquals rest)
    match skipSpace rest with
    | '}' :: rest => some ([(key, value)], rest)
    | ',' :: rest =>
      let (pairs, rest) ← readPairs fuel depth rest
      some ((key, value) :: pairs, rest)
    | _ => none

end

/-- Reads a header after its first bracket. -/
def readHeader (input : List Char) : Option (Header × List Char) :=
  match input with
  | '[' :: rest => do
    let ((path, key), rest) ← readKey rest
    match rest with
    | ']' :: ']' :: rest => some (.element path key, rest)
    | _ => none
  | _ => do
    let ((path, key), rest) ← readKey input
    match rest with
    | ']' :: rest => some (.table path key, rest)
    | _ => none

/-- Reads line after line into a draft. -/
def readLines : Nat → Draft → List Char → Option Draft
  | 0, _, _ => none
  | fuel + 1, draft, input =>
    match skipSpace input with
    | [] => some draft
    | '[' :: rest => do
      let (header, rest) ← readHeader rest
      let rest ← endLine rest
      readLines fuel (← draft.start header) rest
    | c :: rest =>
      if c == '#' || c == '\n' || c == '\r' then do
        readLines fuel draft (← endLine (c :: rest))
      else do
        let ((path, key), rest) ← readKey (c :: rest)
        let (value, rest) ← readValue (2 * rest.length + 2) (depthLimit - 1) (← readEquals rest)
        let rest ← endLine rest
        readLines fuel (← draft.add path key value) rest

/-- Drops the mark that a text may begin with to show its encoding. -/
def skipEncodingMark : List Char → List Char
  | '\ufeff' :: rest => rest
  | rest => rest

/-- The entries of a TOML document; none when it is not well-formed. -/
def parse? (source : String) : Option (List (String × Toml)) := do
  let input := skipEncodingMark source.toList
  let draft ← readLines (input.length + 1) {} input
  some (entriesToToml (← draft.close))

end ApiStub.Toml
