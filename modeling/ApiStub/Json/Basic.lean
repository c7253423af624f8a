/-!
# JSON documents

The value type of everything the program reads and answers. An object is a list of members in
order; its operations keep one member per name: a name that is set again keeps its first position
and takes the last value.
-/

namespace ApiStub

/-- A JSON value. Integers that fit 64 bits, signed or unsigned, are kept exact; every other
number is a float. -/
inductive Json where
  | null
  | bool (value : Bool)
  | int (value : Int)
  | float (value : Float)
  | string (value : String)
  | array (items : List Json)
  | object (members : List (String × Json))
  deriving Inhabited

/-- The members of an object, in order. -/
abbrev Members := List (String × Json)

namespace Json

/-- The value of a name in a list of members. -/
def find? {α : Type} (members : List (String × α)) (name : String) : Option α :=
  (members.find? (·.1 == name)).map (·.2)

/-- Sets a name in a list of members: in place where the name occurs, else at the end. -/
def put {α : Type} (name : String) (value : α) : List (String × α) → List (String × α)
  | [] => [(name, value)]
  | (other, old) :: rest =>
    if other == name then (name, value) :: rest else (other, old) :: put name value rest

/-- The value of a name, when the document is an object that has it. -/
def get? (name : String) : Json → Option Json
  | object members => find? members name
  | _ => none

/-- The members, when the document is an object. -/
def members? : Json → Option Members
  | object members => some members
  | _ => none

/-- The items, when the document is an array. -/
def items? : Json → Option (List Json)
  | array items => some items
  | _ => none

/-- The text, when the document is a string. -/
def string? : Json → Option String
  | string value => some value
  | _ => none

/-- The truth value, when the document is one. -/
def bool? : Json → Option Bool
  | bool value => some value
  | _ => none

/-- The natural number, when the document is an integer that is not negative. -/
def nat? : Json → Option Nat
  | int (.ofNat value) => some value
  | _ => none

/-- The number, rounded to the nearest float when it is an integer. -/
def number? : Json → Option Float
  | int value => some (Float.ofInt value)
  | float value => some value
  | _ => none

theorem put_of_not_mem {α : Type} {name : String} {members : List (String × α)} (value : α)
    (fresh : name ∉ members.map (·.1)) : put name value members = members ++ [(name, value)] := by
  induction members with
  | nil => rfl
  | cons head rest ih =>
      obtain ⟨other, old⟩ := head
      simp only [List.map_cons, List.mem_cons, not_or] at fresh
      have differs : (other == name) = false := by simpa using Ne.symm fresh.1
      simp [put, differs, ih fresh.2]

end Json

end ApiStub
