import ApiStub.Files.Path
import ApiStub.Text.Utf8

/-!
# Folders

What a program sees of a disk: a path leads to a file, to a folder or nowhere. A `Folder` keeps
such a disk in memory, with one item for every place.
-/

namespace ApiStub.Files

/-- What stands at a place. -/
inductive Item where
  /-- A file and what it holds. -/
  | file (content : List UInt8)
  /-- A folder. -/
  | folder
  deriving DecidableEq, Inhabited

/-- What a file holds. -/
def Item.content? : Item → Option (List UInt8)
  | file content => some content
  | folder => none

/-- The text of a file. -/
def Item.text? (item : Item) : Option String := item.content?.bind Text.decode?

/-- The items beneath a folder, each with the names that lead to it. -/
structure Folder where
  /-- The items, without the folder itself. -/
  items : List (List String × Item) := []
  deriving Inhabited

namespace Folder

/-- What stands at a place; the folder itself stands at the empty one. -/
def at? (folder : Folder) (place : List String) : Option Item :=
  if place.isEmpty then some .folder
  else (folder.items.find? (·.1 == place)).map (·.2)

/-- Whether a folder stands at a place. -/
def isFolder (folder : Folder) (place : List String) : Bool :=
  folder.at? place == some .folder

/-- The place that some parts of a path lead to. Every part but the last has to lead to a folder. -/
def walk (folder : Folder) : List String → List String → Option (List String)
  | place, [] => some place
  | place, part :: rest =>
    if !folder.isFolder place then none
    else if part == "" || part == "." then folder.walk place rest
    else if part == ".." then
      if place.isEmpty then none else folder.walk place.dropLast rest
    else folder.walk (place ++ [part]) rest

/-- The place of a path, which may be vacant. Absolute paths lead out of the folder. -/
def place? (folder : Folder) (path : String) : Option (List String) :=
  if path == "" || path.startsWith "/" then none else folder.walk [] (pathParts path)

/-- What a path leads to. -/
def find? (folder : Folder) (path : String) : Option Item :=
  (folder.place? path).bind folder.at?

/-- Puts an item at a place. -/
def put (folder : Folder) (place : List String) (item : Item) : Folder where
  items := (place, item) :: folder.items.filter (·.1 != place)

/-- Writes a file, unless a folder is in the way. -/
def write? (folder : Folder) (path : String) (content : List UInt8) : Option Folder := do
  let place ← folder.place? path
  if folder.isFolder place then none else some (folder.put place (.file content))

/-- Makes a folder at a vacant place. -/
def makeFolder? (folder : Folder) (path : String) : Option Folder := do
  let place ← folder.place? path
  if (folder.at? place).isSome then none else some (folder.put place .folder)

/-- Removes a file. -/
def remove? (folder : Folder) (path : String) : Option Folder := do
  let place ← folder.place? path
  match folder.at? place with
  | some (.file _) => some { items := folder.items.filter (·.1 != place) }
  | _ => none

end Folder

end ApiStub.Files
