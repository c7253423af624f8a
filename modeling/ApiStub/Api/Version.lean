import ApiStub.Json.Pointer

/-!
# Versions

Versions are compared component by component as numbers, a missing component counting as zero. A
component counts by its leading digits; one without any, or beyond 64 bits, counts as zero.
-/

namespace ApiStub.Api

/-- The number of one component of a version. -/
def versionComponent (part : List Char) : Nat :=
  let value := Text.decimal (part.takeWhile Char.isDigit)
  if value < 2 ^ 64 then value else 0

/-- The components of a version. -/
def versionComponents (version : String) : List Nat :=
  (Text.splitAtChar '.' version.toList).map versionComponent

/-- The order of two lists of components, the shorter one padded with zeros. -/
def compareComponents : List Nat → List Nat → Ordering
  | [], others => if others.all (· == 0) then .eq else .lt
  | a :: as, [] => if (a :: as).all (· == 0) then .eq else .gt
  | a :: as, b :: bs => (compare a b).then (compareComponents as bs)

/-- The order of two versions. -/
def versionOrder (first second : String) : Ordering :=
  compareComponents (versionComponents first) (versionComponents second)

end ApiStub.Api
