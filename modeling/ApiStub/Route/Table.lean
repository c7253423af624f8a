import ApiStub.Route.Template

/-!
# Route tables

A table holds its entries in the order they were pushed, with the positions of each method's
entries beside them. Looking up the entries of a method gives the same list as filtering them all.
-/

namespace ApiStub.Route

open Api (Schema)
open Http (Method)

/-- A body that is ready to be served, with the schema it was made for. -/
structure Prepared where
  /-- The schema. -/
  schema : Schema
  /-- A value of it. -/
  body : Json
  deriving Inhabited

/-- Where an entry comes from. -/
inductive Origin where
  /-- An operation of the description. -/
  | operation (id : Option String)
  /-- The entry that says that the server is alive. -/
  | health
  deriving DecidableEq, Repr

/-- What one method of one template is answered with. -/
structure Entry where
  /-- The method. -/
  method : Method
  /-- The template of its paths. -/
  template : Template
  /-- The status that is served. -/
  status : Nat
  /-- The bodies that are ready, by status in ascending order. -/
  responses : List (Nat × Prepared)
  /-- Where it comes from. -/
  origin : Origin

namespace Entry

/-- Whether the entry says that the server is alive. -/
def reportsHealth (entry : Entry) : Bool := entry.origin == .health

/-- The status to serve with its body. A status without a body gives way to the lowest one that
has one. -/
def response (entry : Entry) : Nat × Option Prepared :=
  match entry.responses.find? (·.1 == entry.status) with
  | some (_, prepared) => (entry.status, some prepared)
  | none =>
    match entry.responses with
    | (status, prepared) :: _ => (status, some prepared)
    | [] => (entry.status, none)

end Entry

/-- Entries in order, with the positions of each method's entries. -/
structure Table where
  /-- The entries. -/
  entries : Array Entry := #[]
  /-- For each method, the positions of its entries in ascending order. -/
  positions : List (Method × List Nat) := []
  deriving Inhabited

namespace Table

/-- The positions recorded for a method. -/
def positionsOf (table : Table) (method : Method) : List Nat :=
  ((table.positions.find? (·.1 == method)).map (·.2)).getD []

/-- Records a position for a method. -/
def record (method : Method) (position : Nat) :
    List (Method × List Nat) → List (Method × List Nat)
  | [] => [(method, [position])]
  | (other, known) :: rest =>
    if other == method then (other, known ++ [position]) :: rest
    else (other, known) :: record method position rest

/-- Adds an entry after all others. -/
def push (table : Table) (entry : Entry) : Table where
  entries := table.entries.push entry
  positions := record entry.method table.entries.size table.positions

/-- The table of some entries. -/
def ofEntries (entries : List Entry) : Table := entries.foldl push {}

/-- How many entries there are. -/
def size (table : Table) : Nat := table.entries.size

/-- The entries of a method, in order. -/
def entriesOf (table : Table) (method : Method) : List Entry :=
  (table.positionsOf method).filterMap fun position => table.entries[position]?

/-- Adds a method to the group of its template; a new template starts a group at the end. -/
def addToGroup (template method : String) :
    List (String × List String) → List (String × List String)
  | [] => [(template, [method])]
  | (other, methods) :: rest =>
    if other == template then
      (other, if methods.contains method then methods else methods ++ [method]) :: rest
    else (other, methods) :: addToGroup template method rest

/-- The templates in order of appearance, each with its methods in order of appearance. -/
def groups (table : Table) : List (String × List String) :=
  table.entries.toList.foldl
    (fun groups entry => addToGroup entry.template.text entry.method.token groups) []

/-- A template with its methods in one line. -/
def listingLine (group : String × List String) : String :=
  "  - [" ++ ", ".intercalate group.2 ++ "] | " ++ group.1

/-- One line for every template. -/
def listing (table : Table) : List String := table.groups.map listingLine

/-- The listing below a heading, each line ended by a line feed. -/
def banner (table : Table) : String :=
  "Available endpoints:\n" ++ String.join (table.listing.map (· ++ "\n"))

end Table

end ApiStub.Route
