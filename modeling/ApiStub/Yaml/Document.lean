import ApiStub.Decimal.Shortest
import ApiStub.Json.Basic
import ApiStub.Yaml.Lexer
import ApiStub.Yaml.Node

/-!
# YAML documents as JSON

A plain scalar is read by its form: null, a truth value, an integer, a float, or else text. A
quoted one is text, and the tags of the core types force one reading. Infinities and NaN have no
JSON form and become null. A key is the text of its scalar. An alias stands for a copy of what it
names; limits on nesting and on the number of copies keep the result finite.
-/

namespace ApiStub.Yaml

/-- Collections may be nested this deep. -/
def maxDepth : Nat := 128

/-- The plain forms of null. -/
def isNull (text : String) : Bool :=
  text == "null" || text == "Null" || text == "NULL" || text == "~"

/-- The plain forms of the truth values. -/
def truth? (text : String) : Option Bool :=
  if text == "true" || text == "True" || text == "TRUE" then some true
  else if text == "false" || text == "False" || text == "FALSE" then some false
  else none

/-- Several digits of which the first is zero: text, not a number. -/
def hasLeadingZero : List Char → Bool
  | '0' :: c :: rest => (c :: rest).all Char.isDigit
  | _ => false

/-- An integer without its sign: in base 16, 8 or 2 after a mark, else decimal. -/
def magnitude? : List Char → Option Nat
  | '0' :: 'x' :: rest => Text.ofBase? 16 rest
  | '0' :: 'o' :: rest => Text.ofBase? 8 rest
  | '0' :: 'b' :: rest => Text.ofBase? 2 rest
  | digits => if hasLeadingZero digits then none else Text.ofBase? 10 digits

/-- An integer with an optional sign. -/
def integer? (text : String) : Option Int :=
  match text.toList with
  | '-' :: rest => (magnitude? rest).map fun n => -(n : Int)
  | '+' :: rest => (magnitude? rest).map fun n => (n : Int)
  | digits => (magnitude? digits).map fun n => (n : Int)

/-- The reading of an integer scalar: one beyond 64 bits is an error while it fits 128, and no
integer at all beyond that. -/
inductive IntegerReading where
  | value (n : Int)
  | tooLarge
  | notInteger

/-- How a text reads as an integer. -/
def readInteger (text : String) : IntegerReading :=
  match integer? text with
  | none => .notInteger
  | some n =>
    if -(2 ^ 63) ≤ n && n < 2 ^ 64 then .value n
    else if -(2 ^ 127) ≤ n && n < 2 ^ 128 then .tooLarge
    else .notInteger

/-- Decimal notation: digits with a point among or beside them, and an exponent if there is one. -/
def decimal? (chars : List Char) : Option Decimal :=
  let (whole, rest) := chars.span Char.isDigit
  let (fraction, rest) := match rest with
    | '.' :: rest => rest.span Char.isDigit
    | rest => ([], rest)
  let digits := whole ++ fraction
  if digits.isEmpty then none
  else
    let value := Text.decimal digits
    let shift : Int := -(fraction.length : Int)
    match rest with
    | [] => some ⟨value, shift⟩
    | mark :: rest =>
      if mark == 'e' || mark == 'E' then
        match rest with
        | '-' :: rest => (Text.ofBase? 10 rest).map fun e => ⟨value, shift - e⟩
        | '+' :: rest => (Text.ofBase? 10 rest).map fun e => ⟨value, shift + e⟩
        | rest => (Text.ofBase? 10 rest).map fun e => ⟨value, shift + e⟩
      else none

/-- A float in decimal notation that is finite, with its sign. -/
def finiteFloat? (negative : Bool) (chars : List Char) : Option Float :=
  (decimal? chars).bind fun decimal =>
    let x := decimal.toFloat
    if x.isFinite then some (if negative then -x else x) else none

/-- The forms of infinity, without a sign. -/
def isInfinity (chars : List Char) : Bool :=
  chars == ".inf".toList || chars == ".Inf".toList || chars == ".INF".toList

/-- A float scalar. What has no JSON form is `none` inside. -/
def float? (text : String) : Option (Option Float) :=
  let chars := text.toList
  let unsigned := match chars with
    | '+' :: rest => rest
    | '-' :: rest => rest
    | rest => rest
  let special := isInfinity unsigned || text == ".nan" || text == ".NaN" || text == ".NAN"
  if special then some none
  else (finiteFloat? (chars.head? == some '-') unsigned).map some

/-- The JSON form of a float. -/
def ofFloat (x : Option Float) : Json := (x.map Json.float).getD .null

/-- A plain scalar, read by its form; `none` for an integer that is too large. -/
def readPlainScalar (text : String) : Option Json :=
  if text.isEmpty || isNull text then some .null
  else
    match truth? text with
    | some value => some (.bool value)
    | none =>
      match readInteger text with
      | .value n => some (.int n)
      | .tooLarge => none
      | .notInteger =>
        let unsigned := match text.toList with
          | '+' :: rest => rest
          | '-' :: rest => rest
          | rest => rest
        if hasLeadingZero unsigned then some (.string text)
        else some (((float? text).map ofFloat).getD (.string text))

/-- A core type that a tag can force. -/
def coreTag (name : String) : String := "tag:yaml.org,2002:" ++ name

/-- A scalar. A tag of the document's own has no JSON form. -/
def readScalar (properties : Properties) (text : String) (plain : Bool) : Option Json :=
  match properties.tag with
  | none => if plain then readPlainScalar text else some (.string text)
  | some tag =>
    if tag.startsWith "!" then none
    else if tag == coreTag "bool" then (truth? text).map Json.bool
    else if tag == coreTag "int" then
      match readInteger text with
      | .value n => some (.int n)
      | _ => none
    else if tag == coreTag "float" then (float? text).map ofFloat
    else if tag == coreTag "null" then (if isNull text then some .null else none)
    else some (.string text)

mutual

/-- The anchored nodes of a tree with their numbers, in the order in which they begin. -/
def anchored : Node → List (Nat × Node)
  | .alias _ => []
  | .scalar properties text plain =>
    (properties.anchor.map fun n => (n, Node.scalar properties text plain)).toList
  | .sequence properties items =>
    (properties.anchor.map fun n => (n, Node.sequence properties items)).toList ++
      anchoredItems items
  | .mapping properties entries =>
    (properties.anchor.map fun n => (n, Node.mapping properties entries)).toList ++
      anchoredEntries entries

/-- The anchored nodes among items. -/
def anchoredItems : List Node → List (Nat × Node)
  | [] => []
  | item :: rest => anchored item ++ anchoredItems rest

/-- The anchored nodes among entries. -/
def anchoredEntries : List (Node × Node) → List (Nat × Node)
  | [] => []
  | (key, value) :: rest => anchored key ++ (anchored value ++ anchoredEntries rest)

end

mutual

/-- How many events a tree is told in: one for a scalar or alias, a start and an end for a
collection. -/
def eventCount : Node → Nat
  | .alias _ => 1
  | .scalar _ _ _ => 1
  | .sequence _ items => 2 + eventCountItems items
  | .mapping _ entries => 2 + eventCountEntries entries

/-- The events of items. -/
def eventCountItems : List Node → Nat
  | [] => 0
  | item :: rest => eventCount item + eventCountItems rest

/-- The events of entries. -/
def eventCountEntries : List (Node × Node) → Nat
  | [] => 0
  | (key, value) :: rest => eventCount key + (eventCount value + eventCountEntries rest)

end

/-- What aliases stand for, and how many copies they may make. -/
structure Aliases where
  /-- Anchored nodes with their numbers, in the order in which they begin. -/
  nodes : List (Nat × Node)
  /-- The greatest number of copies. -/
  limit : Nat

/-- The node an alias stands for, with one more copy counted. Of several nodes with one number the
last counts. -/
def Aliases.target? (aliases : Aliases) (anchor copies : Nat) : Option (Node × Nat) :=
  if aliases.limit ≤ copies then none
  else (aliases.nodes.reverse.find? (·.1 == anchor)).map fun (_, node) => (node, copies + 1)

/-- The text of a key, which must be a scalar. -/
def keyText? (aliases : Aliases) (copies : Nat) : Node → Option (String × Nat)
  | .scalar _ text _ => some (text, copies)
  | .alias anchor =>
    match aliases.target? anchor copies with
    | some (.scalar _ text _, copies) => some (text, copies)
    | _ => none
  | _ => none

/-- The JSON values of items, with `visit` for one of them. -/
def jsonItems (visit : Node → Nat → Option (Json × Nat)) :
    List Node → Nat → Option (List Json × Nat)
  | [], copies => some ([], copies)
  | item :: rest, copies =>
    (visit item copies).bind fun (value, copies) =>
      (jsonItems visit rest copies).map fun (values, copies) => (value :: values, copies)

/-- The members that entries stand for; a repeated key takes the last value. -/
def jsonMembers (aliases : Aliases) (visit : Node → Nat → Option (Json × Nat)) :
    List (Node × Node) → Members → Nat → Option (Members × Nat)
  | [], done, copies => some (done, copies)
  | (key, value) :: rest, done, copies =>
    (keyText? aliases copies key).bind fun (name, copies) =>
      (visit value copies).bind fun (value, copies) =>
        jsonMembers aliases visit rest (Json.put name value done) copies

/-- The JSON value of a node, with `depth` levels of nesting left. `fuel` bounds the steps from a
node to its parts and from an alias to its target. -/
def jsonOf (aliases : Aliases) : Nat → Nat → Node → Nat → Option (Json × Nat)
  | 0, _, _, _ => none
  | fuel + 1, depth, node, copies =>
    match node, depth with
    | .alias anchor, depth =>
      (aliases.target? anchor copies).bind fun (node, copies) =>
        jsonOf aliases fuel depth node copies
    | .scalar properties text plain, _ =>
      (readScalar properties text plain).map fun value => (value, copies)
    | .sequence properties items, depth + 1 =>
      if properties.tag.any (·.startsWith "!") then none
      else
        (jsonItems (jsonOf aliases fuel depth) items copies).map fun (values, copies) =>
          (.array values, copies)
    | .mapping properties entries, depth + 1 =>
      if properties.tag.any (·.startsWith "!") then none
      else
        (jsonMembers aliases (jsonOf aliases fuel depth) entries [] copies).map
          fun (members, copies) => (.object members, copies)
    | _, 0 => none

/-- The JSON value of a document. Between two collections at most one alias stands, so twice the
depth and one more steps suffice. -/
def Node.toJson? (node : Node) : Option Json :=
  let aliases : Aliases := { nodes := anchored node, limit := eventCount node * 100 }
  (jsonOf aliases (2 * maxDepth + 2) maxDepth node 0).map (·.1)

/-- The JSON value of the one document of a YAML text; an empty stream is null. -/
def parse? (text : String) : Option Json :=
  (tokens? text).bind fun tokens =>
    (Node.ofTokens? tokens).bind fun node =>
      match node with
      | none => some .null
      | some node => node.toJson?

end ApiStub.Yaml
