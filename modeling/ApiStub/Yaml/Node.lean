import ApiStub.Yaml.Token

/-!
# The tree of a YAML document

`Node.ofTokens?` reads the one document of a stream by the grammar of YAML, without an opinion on
what its scalars mean. Anchors are numbered by the count of distinct names before them, and an
alias holds the number that its name has where it stands; a name that is not anchored before is an
error.
-/

namespace ApiStub.Yaml

/-- What may stand before the content of a node. -/
structure Properties where
  /-- The number of its anchor. -/
  anchor : Option Nat := none
  /-- Its tag, written out. -/
  tag : Option String := none

/-- A node of a document. -/
inductive Node where
  | alias (anchor : Nat)
  /-- A scalar with its text; only a `plain` one is read by its form. -/
  | scalar (properties : Properties) (text : String) (plain : Bool)
  | sequence (properties : Properties) (items : List Node)
  | mapping (properties : Properties) (entries : List (Node × Node))

/-- The scalar that stands where a node is left out. -/
def Node.empty (properties : Properties := {}) : Node := .scalar properties "" true

/-- What is known while the tokens of a document are read. -/
structure Reading where
  /-- The tokens that follow. -/
  tokens : List Token
  /-- Anchor names with their numbers, the latest first. -/
  anchors : List (String × Nat) := []

namespace Reading

/-- The next token; there is none at the end of the stream. -/
def head? (reading : Reading) : Option Token := reading.tokens.head?

/-- Steps over a token. -/
def skip (reading : Reading) : Reading := { reading with tokens := reading.tokens.drop 1 }

/-- Whether the next token is one of the given ones; the end of the stream is none. -/
def nextIn (reading : Reading) (tokens : List Token) : Bool := reading.head?.any tokens.contains

/-- The number of distinct anchor names. -/
def anchorCount (reading : Reading) : Nat := (reading.anchors.map (·.1)).eraseDups.length

/-- Gives a name the next number. -/
def bindAnchor (reading : Reading) (name : String) : Nat × Reading :=
  let number := reading.anchorCount
  (number, { reading with anchors := (name, number) :: reading.anchors })

end Reading

/-- The tag that a handle and a suffix stand for. -/
def resolveTag? (handles : List (String × String)) (handle suffix : String) : Option String :=
  if handle.isEmpty then some suffix
  else (handles.find? (·.1 == handle)).map fun (_, leading) => leading ++ suffix

/-- The anchor and tag before a node, in either order. -/
def readProperties (handles : List (String × String)) (reading : Reading) :
    Option (Properties × Reading) :=
  match reading.tokens with
  | .anchor name :: .tag handle suffix :: rest =>
    let (number, reading) := { reading with tokens := rest }.bindAnchor name
    (resolveTag? handles handle suffix).map fun tag =>
      ({ anchor := some number, tag := some tag }, reading)
  | .tag handle suffix :: .anchor name :: rest =>
    let (number, reading) := { reading with tokens := rest }.bindAnchor name
    (resolveTag? handles handle suffix).map fun tag =>
      ({ anchor := some number, tag := some tag }, reading)
  | .anchor name :: rest =>
    let (number, reading) := { reading with tokens := rest }.bindAnchor name
    some ({ anchor := some number }, reading)
  | .tag handle suffix :: rest =>
    (resolveTag? handles handle suffix).map fun tag =>
      ({ tag := some tag }, { reading with tokens := rest })
  | _ => some ({}, reading)

mutual

/-- One node. In the value of a block mapping a sequence may stand without indentation of its own
(`indentless`); inside a flow collection no block collection may stand (`block` is false). -/
def readNode (handles : List (String × String)) (block indentless : Bool) :
    Nat → Reading → Option (Node × Reading)
  | 0, _ => none
  | fuel + 1, reading =>
    match reading.head? with
    | some (.alias name) =>
      (reading.anchors.find? (·.1 == name)).map fun (_, number) => (.alias number, reading.skip)
    | _ =>
      match readProperties handles reading with
      | none => none
      | some (properties, reading) =>
        match reading.head?, block, indentless with
        | some (.scalar text plain), _, _ =>
          if properties.tag == some "!" then
            some (.scalar { properties with tag := none } text true, reading.skip)
          else some (.scalar properties text plain, reading.skip)
        | some .flowSequenceStart, _, _ =>
          (readFlowItems handles true fuel reading.skip).map fun (items, reading) =>
            (.sequence properties items, reading)
        | some .flowMappingStart, _, _ =>
          (readFlowEntries handles true fuel reading.skip).map fun (entries, reading) =>
            (.mapping properties entries, reading)
        | some .blockEntry, _, true =>
          (readIndentlessItems handles fuel reading).map fun (items, reading) =>
            (.sequence properties items, reading)
        | some .blockSequenceStart, true, _ =>
          (readBlockItems handles fuel reading.skip).map fun (items, reading) =>
            (.sequence properties items, reading)
        | some .blockMappingStart, true, _ =>
          (readBlockEntries handles fuel reading.skip).map fun (entries, reading) =>
            (.mapping properties entries, reading)
        | _, _, _ =>
          if properties.anchor.isSome || properties.tag.isSome then
            some (Node.empty properties, reading)
          else none

/-- A node, or the empty scalar when one of the given tokens comes in its place. -/
def readOptional (handles : List (String × String)) (block indentless : Bool)
    (ends : List Token) : Nat → Reading → Option (Node × Reading)
  | 0, _ => none
  | fuel + 1, reading =>
    if reading.nextIn ends then some (Node.empty, reading)
    else readNode handles block indentless fuel reading

/-- The items of a block sequence up to its end. -/
def readBlockItems (handles : List (String × String)) :
    Nat → Reading → Option (List Node × Reading)
  | 0, _ => none
  | fuel + 1, reading =>
    match reading.head? with
    | some .blockEntry =>
      match readOptional handles true false [.blockEntry, .blockEnd] fuel reading.skip with
      | none => none
      | some (item, reading) =>
        (readBlockItems handles fuel reading).map fun (items, reading) => (item :: items, reading)
    | some .blockEnd => some ([], reading.skip)
    | _ => none

/-- The items of a sequence that stands at the indentation of the mapping around it. -/
def readIndentlessItems (handles : List (String × String)) :
    Nat → Reading → Option (List Node × Reading)
  | 0, _ => none
  | fuel + 1, reading =>
    match reading.head? with
    | some .blockEntry =>
      let ends : List Token := [.blockEntry, .key, .value, .blockEnd]
      match readOptional handles true false ends fuel reading.skip with
      | none => none
      | some (item, reading) =>
        (readIndentlessItems handles fuel reading).map fun (items, reading) =>
          (item :: items, reading)
    | _ => some ([], reading)

/-- The entries of a block mapping up to its end. A key without a value has the empty scalar, and
so has a value without a key. -/
def readBlockEntries (handles : List (String × String)) :
    Nat → Reading → Option (List (Node × Node) × Reading)
  | 0, _ => none
  | fuel + 1, reading =>
    let ends : List Token := [.key, .value, .blockEnd]
    match reading.head? with
    | some .key =>
      match readOptional handles true true ends fuel reading.skip with
      | none => none
      | some (key, reading) =>
        if reading.nextIn [.value] then
          match readOptional handles true true ends fuel reading.skip with
          | none => none
          | some (value, reading) =>
            (readBlockEntries handles fuel reading).map fun (entries, reading) =>
              ((key, value) :: entries, reading)
        else
          (readBlockEntries handles fuel reading).map fun (entries, reading) =>
            ((key, Node.empty) :: entries, reading)
    | some .blockEnd => some ([], reading.skip)
    | _ => none

/-- The items of a flow sequence up to its bracket. An item with a key is a mapping of one entry.
-/
def readFlowItems (handles : List (String × String)) (first : Bool) :
    Nat → Reading → Option (List Node × Reading)
  | 0, _ => none
  | fuel + 1, reading =>
    if reading.nextIn [.flowSequenceEnd] then some ([], reading.skip)
    else if !first && !reading.nextIn [.flowEntry] then none
    else
      let reading := if first then reading else reading.skip
      match reading.head? with
      | some .flowSequenceEnd => some ([], reading.skip)
      | some .key =>
        let ends : List Token := [.value, .flowEntry, .flowSequenceEnd]
        let afterKey := reading.skip
        let key :=
          if afterKey.nextIn ends then some (Node.empty, afterKey.skip)
          else readNode handles false false fuel afterKey
        match key with
        | none => none
        | some (key, reading) =>
          let value :=
            if reading.nextIn [.value] then
              readOptional handles false false [.flowEntry, .flowSequenceEnd] fuel reading.skip
            else some (Node.empty, reading)
          match value with
          | none => none
          | some (value, reading) =>
            (readFlowItems handles false fuel reading).map fun (items, reading) =>
              (.mapping {} [(key, value)] :: items, reading)
      | _ =>
        match readNode handles false false fuel reading with
        | none => none
        | some (item, reading) =>
          (readFlowItems handles false fuel reading).map fun (items, reading) =>
            (item :: items, reading)

/-- The entries of a flow mapping up to its brace. -/
def readFlowEntries (handles : List (String × String)) (first : Bool) :
    Nat → Reading → Option (List (Node × Node) × Reading)
  | 0, _ => none
  | fuel + 1, reading =>
    if reading.nextIn [.flowMappingEnd] then some ([], reading.skip)
    else if !first && !reading.nextIn [.flowEntry] then none
    else
      let reading := if first then reading else reading.skip
      match reading.head? with
      | some .flowMappingEnd => some ([], reading.skip)
      | some .key =>
        let ends : List Token := [.value, .flowEntry, .flowMappingEnd]
        match readOptional handles false false ends fuel reading.skip with
        | none => none
        | some (key, reading) =>
          let value :=
            if reading.nextIn [.value] then
              readOptional handles false false [.flowEntry, .flowMappingEnd] fuel reading.skip
            else some (Node.empty, reading)
          match value with
          | none => none
          | some (value, reading) =>
            (readFlowEntries handles false fuel reading).map fun (entries, reading) =>
              ((key, value) :: entries, reading)
      | _ =>
        match readNode handles false false fuel reading with
        | none => none
        | some (key, reading) =>
          (readFlowEntries handles false fuel reading).map fun (entries, reading) =>
            ((key, Node.empty) :: entries, reading)

end

/-- The tag handles known in every document. -/
def defaultHandles : List (String × String) := [("!", "!"), ("!!", "tag:yaml.org,2002:")]

/-- The directives before a document: at most one version, which must be 1.1 or 1.2, and tag
handles that differ. -/
def readDirectives : List Token → Bool → List (String × String) →
    Option (List (String × String) × List Token)
  | .versionDirective major minor :: rest, false, handles =>
    if major == 1 && (minor == 1 || minor == 2) then readDirectives rest true handles else none
  | .versionDirective _ _ :: _, true, _ => none
  | .tagDirective handle leading :: rest, versioned, handles =>
    if handles.any (·.1 == handle) then none
    else readDirectives rest versioned (handles ++ [(handle, leading)])
  | tokens, _, handles => some (handles, tokens)

/-- The document that begins with the given tokens, and the tokens after it. The markers around a
document are optional, but directives need the start marker. -/
def readDocument (tokens : List Token) : Option (Node × List Token) := do
  let (own, rest) ← readDirectives tokens false []
  let handles := own ++ defaultHandles
  let fuel := 4 * (tokens.length + 1)
  let content (tokens : List Token) : Option (Node × List Token) := do
    let (node, reading) ← readNode handles true false fuel { tokens }
    some (node, reading.tokens)
  let (node, rest) ←
    match rest with
    | .documentStart :: rest =>
      match rest.head? with
      | none | some (.versionDirective _ _) | some (.tagDirective _ _) | some .documentStart
      | some .documentEnd => some (Node.empty, rest)
      | _ => content rest
    | _ => if rest.length == tokens.length then content rest else none
  match rest with
  | .documentEnd :: rest => some (node, rest)
  | _ => some (node, rest)

/-- The one document of a stream; `none` inside when the stream is empty. A stream of several
documents is refused. -/
def Node.ofTokens? (tokens : List Token) : Option (Option Node) :=
  if tokens.isEmpty then some none
  else
    (readDocument tokens).bind fun (node, rest) =>
      if rest.all (· == .documentEnd) then some (some node) else none

end ApiStub.Yaml
