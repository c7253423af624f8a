import ApiStub.Json.Basic

/-!
# Schemas

A `Schema` describes the values that one place of a response may take. Every node carries `Marks`,
the hand-written values that go before its kind: an example and a list of allowed values. Nodes
own their children, so a schema is a finite tree; references are cut before one is built.
-/

namespace ApiStub.Api

/-- The hand-written values of a schema node. -/
structure Marks where
  /-- A literal to answer with. A JSON `null` counts as an example. -/
  example? : Option Json := none
  /-- The values allowed, in order; empty when there is no such list. -/
  allowed : List Json := []
  deriving Inhabited

/-- The formats of strings that have a form of their own. -/
inductive TextFormat where
  | dateTime
  | date
  | email
  | uri
  | uuid
  | hostname
  | ipv4
  | ipv6
  /-- A format without a form of its own; such a string is plain text. -/
  | other (name : String)
  deriving DecidableEq, Repr

/-- The format of a keyword. -/
def TextFormat.ofKeyword (keyword : String) : TextFormat :=
  match keyword with
  | "date-time" => .dateTime
  | "date" => .date
  | "email" => .email
  | "uri" | "url" => .uri
  | "uuid" => .uuid
  | "hostname" => .hostname
  | "ipv4" => .ipv4
  | "ipv6" => .ipv6
  | name => .other name

/-- Declared bounds of a length, in characters or in items. -/
structure SizeBounds where
  /-- The least length. -/
  least : Option Nat := none
  /-- The greatest length. -/
  greatest : Option Nat := none
  deriving DecidableEq, Repr, Inhabited

/-- Declared bounds of a number, both inclusive. -/
structure ValueBounds where
  /-- The least value. -/
  minimum : Option Float := none
  /-- The greatest value. -/
  maximum : Option Float := none
  deriving Inhabited

/-- What a string must look like. -/
structure StringFacets where
  /-- The format keyword. -/
  format : Option TextFormat := none
  /-- A regular expression that the string must match. -/
  pattern : Option String := none
  /-- Bounds of its length in characters. -/
  size : SizeBounds := {}
  deriving DecidableEq, Repr, Inhabited

/-- A description of the values of one place. -/
inductive Schema where
  | string (marks : Marks) (facets : StringFacets)
  | integer (marks : Marks) (bounds : ValueBounds)
  | number (marks : Marks) (bounds : ValueBounds)
  | boolean (marks : Marks)
  /-- An array; without `items` nothing is known of its elements. -/
  | array (marks : Marks) (items : Option Schema) (size : SizeBounds)
  /-- An object with its properties in order and the names it must have. -/
  | object (marks : Marks) (properties : List (String × Schema)) (required : List String)
  /-- A type keyword that is not one of the others. -/
  | unknown (marks : Marks) (keyword : String)

namespace Schema

/-- The empty object without marks, which stands for every schema that could not be expanded. -/
def placeholder : Schema := .object {} [] []

instance : Inhabited Schema := ⟨placeholder⟩

/-- The marks of a node. -/
def marks : Schema → Marks
  | string marks _ => marks
  | integer marks _ => marks
  | number marks _ => marks
  | boolean marks => marks
  | array marks _ _ => marks
  | object marks _ _ => marks
  | unknown marks _ => marks

/-- The node with other marks. -/
def withMarks (marks : Marks) : Schema → Schema
  | string _ facets => string marks facets
  | integer _ bounds => integer marks bounds
  | number _ bounds => number marks bounds
  | boolean _ => boolean marks
  | array _ items size => array marks items size
  | object _ properties required => object marks properties required
  | unknown _ keyword => unknown marks keyword

/-- The node with an example in place of its own, when there is one to put. -/
def replaceExample (node : Schema) : Option Json → Schema
  | none => node
  | some value => node.withMarks { node.marks with example? := some value }

/-- The type keyword of the node. -/
def keyword : Schema → String
  | string _ _ => "string"
  | integer _ _ => "integer"
  | number _ _ => "number"
  | boolean _ => "boolean"
  | array _ _ _ => "array"
  | object _ _ _ => "object"
  | unknown _ keyword => keyword

/-- Whether the node is the placeholder. -/
def isPlaceholder : Schema → Bool
  | object ⟨none, []⟩ [] [] => true
  | _ => false

@[simp]
theorem marks_withMarks (node : Schema) (marks : Marks) : (node.withMarks marks).marks = marks := by
  cases node <;> rfl

@[simp]
theorem keyword_withMarks (node : Schema) (marks : Marks) :
    (node.withMarks marks).keyword = node.keyword := by
  cases node <;> rfl

theorem isPlaceholder_iff (node : Schema) : node.isPlaceholder = true ↔ node = placeholder := by
  constructor
  · intro holds
    unfold isPlaceholder at holds
    split at holds
    · rfl
    · cases holds
  · rintro rfl
    rfl

end Schema

/-- The properties and required names of an object schema, while it is put together. -/
structure ObjectShape where
  /-- Property names with their schemas, in order of declaration. -/
  properties : List (String × Schema) := []
  /-- Names an object must have. -/
  required : List String := []
  deriving Inhabited

namespace ObjectShape

/-- Whether the object must have the name. -/
def requires (shape : ObjectShape) (name : String) : Bool :=
  shape.required.contains name

/-- Sets the schema of a property: in place when it is declared already, else at the end. -/
def setProperty (shape : ObjectShape) (name : String) (schema : Schema) : ObjectShape :=
  { shape with properties := Json.put name schema shape.properties }

/-- Adds a name at the end of the required names. -/
def addRequired (shape : ObjectShape) (name : String) : ObjectShape :=
  { shape with required := shape.required ++ [name] }

/-- Adds a required name that is not there yet. -/
def require (shape : ObjectShape) (name : String) : ObjectShape :=
  if shape.requires name then shape else shape.addRequired name

/-- Takes over the properties and required names of another object. -/
def merge (shape : ObjectShape) (properties : List (String × Schema)) (required : List String) :
    ObjectShape :=
  required.foldl require
    (properties.foldl (fun shape property => shape.setProperty property.1 property.2) shape)

/-- The schema of an object of this shape. -/
def toSchema (shape : ObjectShape) (marks : Marks := {}) : Schema :=
  .object marks shape.properties shape.required

end ObjectShape

end ApiStub.Api
