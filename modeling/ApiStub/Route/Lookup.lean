import ApiStub.Route.Table

/-!
# Looking up a request

A request goes to the first entry of its method whose template its path fits. The query is no part
of the path. Methods and paths are compared exactly.
-/

namespace ApiStub.Route

open Http (Method)

/-- The result of looking up a request. -/
inductive Lookup where
  /-- An entry, and the pieces of the path by the names of the template's slots. -/
  | found (entry : Entry) (bindings : List (String × String))
  /-- No entry. -/
  | notFound

namespace Lookup

/-- Whether there is an entry. -/
def succeeded : Lookup → Bool
  | found _ _ => true
  | notFound => false

end Lookup

/-- The path of a request target without its query. -/
def pathOf (target : List Char) : List Char := target.takeWhile (· != '?')

/-- The pieces of a path by name, when it fits the template of an entry. -/
def Entry.bindings? (entry : Entry) (path : List Char) : Option (List (String × String)) :=
  (entry.template.pieces? path).map fun pieces =>
    entry.template.names.zip (pieces.map String.ofList)

/-- The first of some entries that a path fits. -/
def firstFit (path : List Char) : List Entry → Lookup
  | [] => .notFound
  | entry :: rest =>
    match entry.bindings? path with
    | some bindings => .found entry bindings
    | none => firstFit path rest

/-- Looks up a method and a path, which may carry a query. -/
def Table.lookup (table : Table) (method : Method) (target : String) : Lookup :=
  firstFit (pathOf target.toList) (table.entriesOf method)

/-- The piece bound to a name; the first of several. -/
def binding? (bindings : List (String × String)) (name : String) : Option String :=
  (bindings.find? (·.1 == name)).map (·.2)

end ApiStub.Route
