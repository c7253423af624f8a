/-!
# TOML values

The values of a TOML document. A table keeps its entries in order and has every key once. Of dates
and times nothing is kept but that there was one.
-/

namespace ApiStub

/-- A TOML value. -/
inductive Toml where
  | string (value : String)
  | integer (value : Int)
  | float (value : Float)
  | boolean (value : Bool)
  /-- A date, a time, or both. -/
  | datetime
  | array (items : List Toml)
  | table (entries : List (String × Toml))
  deriving Inhabited

end ApiStub
