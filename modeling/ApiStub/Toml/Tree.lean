import ApiStub.Json.Basic
import ApiStub.Toml.Value

/-!
# Building a document

A document is put together entry by entry. While it is, every table knows how it came to be, for
that decides what may still be added: a table with a header of its own cannot get a second one, and
a dotted key goes only into tables that no header has defined.
-/

namespace ApiStub.Toml

/-- How a table came to be. -/
inductive Form where
  /-- By a header, or as the document itself. -/
  | explicit
  /-- By a header of a table inside of it. -/
  | implied
  /-- By a dotted key. -/
  | dotted
  deriving DecidableEq, Repr

/-- What a key of a growing table holds. -/
inductive Item where
  /-- A value, which is complete. -/
  | value (value : Toml)
  /-- A table that may still grow. -/
  | table (form : Form) (entries : List (String × Item))
  /-- An array of tables, of which the last may still grow. -/
  | tables (done : List (List (String × Item))) (last : List (String × Item))
  deriving Inhabited

/-- The entries of a growing table. -/
abbrev Entries := List (String × Item)

mutual

/-- The value of a complete item. -/
def Item.toToml : Item → Toml
  | .value value => value
  | .table _ entries => .table (entriesToToml entries)
  | .tables done last => .array (tablesToToml done ++ [.table (entriesToToml last)])

/-- The entries of a complete table. -/
def entriesToToml : List (String × Item) → List (String × Toml)
  | [] => []
  | (key, item) :: rest => (key, item.toToml) :: entriesToToml rest

/-- The tables of a complete array. -/
def tablesToToml : List (List (String × Item)) → List Toml
  | [] => []
  | entries :: rest => .table (entriesToToml entries) :: tablesToToml rest

end

/-- Changes the table at the end of a path. Tables that are missing on the way are created in the
form `fresh`; a dotted path does not lead through tables that a header has defined. -/
def changeAt (fresh : Form) (change : Form → Entries → Option Entries) :
    Form → List String → Entries → Option Entries
  | form, [], entries => change form entries
  | _, key :: path, entries =>
    match Json.find? entries key with
    | none => (changeAt fresh change fresh path []).map fun inner =>
        Json.put key (.table fresh inner) entries
    | some (.value _) => none
    | some (.tables done last) => (changeAt fresh change .explicit path last).map fun last =>
        Json.put key (.tables done last) entries
    | some (.table form inner) =>
      if fresh == .dotted && form == .explicit then none
      else (changeAt fresh change form path inner).map fun inner =>
        Json.put key (.table form inner) entries

/-- Adds an entry under a key that is not there yet. -/
def addEntry (key : String) (item : Item) (entries : Entries) : Option Entries :=
  match Json.find? entries key with
  | some _ => none
  | none => some (entries ++ [(key, item)])

/-- Adds a value under a key, whose parts before the last name tables. -/
def addValue (path : List String) (key : String) (value : Toml) (entries : Entries) :
    Option Entries :=
  if path.isEmpty then addEntry key (.value value) entries
  else
    changeAt .dotted
      (fun form inner => if form == .dotted then addEntry key (.value value) inner else none)
      .explicit path entries

/-- The table of the pairs of an inline table. -/
def ofPairs? (pairs : List ((List String × String) × Toml)) : Option Toml :=
  (pairs.foldlM (fun entries ((path, key), value) => addValue path key value entries) []).map
    fun entries => .table (entriesToToml entries)

/-- What a header begins. -/
inductive Header where
  /-- A table. -/
  | table (path : List String) (key : String)
  /-- One more table of an array. -/
  | element (path : List String) (key : String)
  deriving Repr

/-- A document that is being read: what earlier headers have completed, and the table of the last
header. Before the first header the entries go to the document itself. -/
structure Draft where
  /-- The document without the current table. -/
  root : Entries := []
  /-- The header of the current table. -/
  header : Option Header := none
  /-- The entries of the current table. -/
  current : Entries := []
  deriving Inhabited

namespace Draft

/-- Puts a table in the place of what a key holds. -/
def putTable (entries : Entries) (key : String) (outer : Entries) : Entries :=
  Json.put key (.table .explicit entries) outer

/-- Adds a table to the array that a key holds, which begins with it if need be. -/
def pushTable (entries : Entries) (key : String) (outer : Entries) : Option Entries :=
  match Json.find? outer key with
  | none => some (outer ++ [(key, .tables [] entries)])
  | some (.tables done last) => some (Json.put key (.tables (done ++ [last]) entries) outer)
  | some _ => none

/-- The document with the current table in its place. -/
def close (draft : Draft) : Option Entries :=
  match draft.header with
  | none => some draft.current
  | some (.table path key) =>
    changeAt .implied (fun _ outer => some (putTable draft.current key outer)) .explicit path
      draft.root
  | some (.element path key) =>
    changeAt .implied (fun _ outer => pushTable draft.current key outer) .explicit path draft.root

/-- The table at the end of a path, with the entries it has so far. -/
def entriesAt (path : List String) (key : String) (root : Entries) : Option (Option Item) :=
  match path with
  | [] => some (Json.find? root key)
  | step :: path =>
    match Json.find? root step with
    | none => some none
    | some (.value _) => none
    | some (.tables _ last) => entriesAt path key last
    | some (.table _ inner) => entriesAt path key inner

/-- Begins the table of a header. A table that only headers inside of it have made so far keeps
what they put there. -/
def start (draft : Draft) (header : Header) : Option Draft := do
  let root ← draft.close
  match header with
  | .table path key =>
    match ← entriesAt path key root with
    | none => some { root, header := some header }
    | some (.table .implied entries) => some { root, header := some header, current := entries }
    | some _ => none
  | .element path key =>
    match ← entriesAt path key root with
    | none => some { root, header := some header }
    | some (.tables _ _) => some { root, header := some header }
    | some _ => none

/-- Adds an entry to the current table. -/
def add (draft : Draft) (path : List String) (key : String) (value : Toml) : Option Draft :=
  (addValue path key value draft.current).map fun current => { draft with current }

end Draft

end ApiStub.Toml
