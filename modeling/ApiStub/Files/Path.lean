import ApiStub.Text.Split

/-!
# Paths

The parts of a path are what stands between its slashes. The last part that names something is the
file name, and what follows its last point is its extension.
-/

namespace ApiStub.Files

/-- The parts of a path. -/
def pathParts (path : String) : List String :=
  (Text.splitAtChar '/' path.toList).map String.ofList

/-- The last component of a path, without regard to slashes at its end and components `.` after
it; a path that ends in `..` has none. -/
def fileName? (path : String) : Option String :=
  match (pathParts path).zipIdx.reverse.find? fun (part, index) =>
      part != "" && !(part == "." && 0 < index) with
  | some (part, _) => if part == "." || part == ".." then none else some part
  | none => none

/-- What follows the last point of a file name, unless the point begins the name. -/
def extension? (name : String) : Option String :=
  let reversed := name.toList.reverse
  match reversed.dropWhile (· != '.') with
  | [] => none
  | [_] => none
  | _ => some (String.ofList (reversed.takeWhile (· != '.')).reverse)

end ApiStub.Files
