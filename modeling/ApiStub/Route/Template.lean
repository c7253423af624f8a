import ApiStub.Api.Description

/-!
# Path templates

A template is literal text with named slots in braces, as in `/pets/{id}`. A path fits when it
splits into the literals and one piece per slot; `pieces?` finds the pieces, each as long as the
ones after it allow.

`write` gives a template back as it was declared, so nothing else of the declaration is kept.
-/

namespace ApiStub.Route

/-- What a slot takes. -/
inductive SlotKind where
  /-- Decimal digits of ASCII. -/
  | digits
  /-- Anything but a slash. -/
  | token
  deriving DecidableEq, Repr

/-- Whether a character may stand in a piece for a slot. -/
def SlotKind.admits : SlotKind → Char → Bool
  | digits, c => c.isDigit
  | token, c => c != '/'

/-- A slot, and the literal text after it. -/
structure Slot where
  /-- What stands between its braces. -/
  name : List Char
  /-- What it takes. -/
  kind : SlotKind
  /-- The literal text up to the next slot or the end. -/
  after : List Char
  deriving DecidableEq, Repr

/-- A template: literal text, then slots with the text after each. -/
structure Template where
  /-- The text before the first slot. -/
  lead : List Char
  /-- The slots in order. -/
  slots : List Slot := []
  deriving DecidableEq, Repr, Inhabited

/-- What is wrong with a template. -/
inductive TemplateFault where
  /-- A closing brace without an opening one. -/
  | unmatched
  /-- An opening brace without a closing one. -/
  | unclosed
  /-- An opening brace inside of a slot. -/
  | nested
  deriving DecidableEq, Repr

/-- A template that cannot be used. -/
structure TemplateError where
  /-- The template as it was declared. -/
  template : String
  /-- What is wrong with it. -/
  fault : TemplateFault
  deriving DecidableEq, Repr

/-- The fault in words. -/
def TemplateFault.reason : TemplateFault → String
  | unmatched => "unmatched '\x7d'"
  | unclosed => "unclosed '\x7b'"
  | nested => "nested '\x7b'"

/-- The error in words. -/
def TemplateError.message (error : TemplateError) : String :=
  "Invalid path template " ++ error.template ++ ": " ++ error.fault.reason

namespace Template

/-- A template without slots. -/
def ofLiteral (text : String) : Template := ⟨text.toList, []⟩

/-- The names of the slots, in order. -/
def names (template : Template) : List String :=
  template.slots.map fun slot => String.ofList slot.name

/-- Whether there is no slot. -/
def isLiteral (template : Template) : Bool := template.slots.isEmpty

/-- A slot in braces with the text after it. -/
def writeSlot (slot : Slot) : List Char := '{' :: slot.name ++ '}' :: slot.after

/-- The text of a template. -/
def write (template : Template) : List Char :=
  template.lead ++ template.slots.flatMap writeSlot

/-- The template as it is declared. -/
def text (template : Template) : String := String.ofList template.write

/-- Literal text up to the next opening brace, and the rest from there on. A closing brace in it
has nothing to close. -/
def readLiteral (input : List Char) : Except TemplateFault (List Char × List Char) :=
  let literal := input.takeWhile (· != '{')
  if literal.contains '}' then .error .unmatched
  else .ok (literal, input.dropWhile (· != '{'))

/-- A slot name up to its closing brace, and the rest after that. -/
def readName (input : List Char) : Except TemplateFault (List Char × List Char) :=
  let name := input.takeWhile (· != '}')
  match input.dropWhile (· != '}') with
  | [] => .error .unclosed
  | _ :: rest => if name.contains '{' then .error .nested else .ok (name, rest)

/-- Reads slots up to the end of a template. Each slot takes a character at least, which bounds
the fuel. -/
def readSlots (kindOf : String → SlotKind) : Nat → List Char → Except TemplateFault (List Slot)
  | 0, _ => .ok []
  | fuel + 1, input =>
    match input with
    | [] => .ok []
    | _ :: input => do
      let (name, rest) ← readName input
      let (after, rest) ← readLiteral rest
      let slots ← readSlots kindOf fuel rest
      .ok (⟨name, kindOf (String.ofList name), after⟩ :: slots)

/-- Reads a template; `kindOf` says what the slot of a name takes. -/
def read (kindOf : String → SlotKind) (input : List Char) : Except TemplateFault Template := do
  let (lead, rest) ← readLiteral input
  let slots ← readSlots kindOf rest.length rest
  .ok ⟨lead, slots⟩

/-- What the slot of a name takes in an operation: digits when the path parameter of that name is
an integer. -/
def slotKind (operation : Api.Operation) (name : String) : SlotKind :=
  match (operation.declaredParameter? name).map Api.Parameter.type with
  | some .integer => .digits
  | _ => .token

/-- The template of an operation. -/
def compile (text : String) (operation : Api.Operation) : Except TemplateError Template :=
  (read (slotKind operation) text.toList).mapError fun fault => ⟨text, fault⟩

/-- What is left of a path after a literal. -/
def strip? : List Char → List Char → Option (List Char)
  | [], path => some path
  | _ :: _, [] => none
  | c :: literal, d :: path => if c == d then strip? literal path else none

/-- The result for the greatest length up to the given one that has a result. Length zero has
none. -/
def longest? {α : Type} (attempt : Nat → Option α) : Nat → Option α
  | 0 => none
  | length + 1 =>
    match attempt (length + 1) with
    | some result => some result
    | none => longest? attempt length

/-- The pieces of a path for slots that it has to end with. -/
def slotPieces? : List Slot → List Char → Option (List (List Char))
  | [], path => if path.isEmpty then some [] else none
  | slot :: slots, path =>
    longest? (fun length =>
        (strip? slot.after (path.drop length)).bind fun rest =>
          (slotPieces? slots rest).map (path.take length :: ·))
      (path.takeWhile slot.kind.admits).length

/-- The pieces of a path, one for each slot, when the path fits. -/
def pieces? (template : Template) (path : List Char) : Option (List (List Char)) :=
  (strip? template.lead path).bind (slotPieces? template.slots)

end Template

end ApiStub.Route
