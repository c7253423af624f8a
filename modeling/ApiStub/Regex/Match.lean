import ApiStub.Regex.Reader

/-!
# Matching

An expression is read as a step from places of a text to places: `ends` gives all places where a
match can end that begins at one of the given places. A text is matched when some match begins
anywhere in it. Since whole sets of places are followed, no choice is ever taken back.

A set of places is a list in ascending order of `index`.
-/

namespace ApiStub.Regex

/-- A place in a text. -/
@[ext]
structure Place where
  /-- How many characters lie before it. -/
  index : Nat
  /-- The character right before it. -/
  before : Option Char
  /-- The characters after it. -/
  rest : List Char
  deriving DecidableEq, Repr, Inhabited

namespace Place

/-- The place after one more character of a class. -/
def advance? (set : CharClass) (place : Place) : Option Place :=
  match place.rest with
  | [] => none
  | c :: rest => if set.contains c then some ⟨place.index + 1, some c, rest⟩ else none

/-- Whether a character of words lies before the place. -/
def afterWord (place : Place) : Bool := (place.before.map isWord).getD false

/-- Whether a character of words lies after the place. -/
def beforeWord (place : Place) : Bool := (place.rest.head?.map isWord).getD false

/-- All places of a text from one on. -/
def allFrom (index : Nat) (before : Option Char) : List Char → List Place
  | [] => [⟨index, before, []⟩]
  | c :: rest => ⟨index, before, c :: rest⟩ :: allFrom (index + 1) (some c) rest

/-- All places of a text. -/
def all (text : List Char) : List Place := allFrom 0 none text

/-- Merges an ascending list into `places`, whose first place is `first`; `mergeRest` merges into
the places after that. -/
def mergeInto (first : Place) (places : List Place) (mergeRest : List Place → List Place) :
    List Place → List Place
  | [] => places
  | other :: others =>
    if first.index < other.index then first :: mergeRest (other :: others)
    else if other.index < first.index then other :: mergeInto first places mergeRest others
    else first :: mergeRest others

/-- The places of two ascending lists, without repetition. -/
def merge : List Place → List Place → List Place
  | [] => fun others => others
  | first :: rest => mergeInto first (first :: rest) (merge rest)

/-- Removes the places of an ascending list from `places`, whose first place is `first`;
`withoutRest` removes them from the places after that. -/
def removeFrom (first : Place) (places : List Place) (withoutRest : List Place → List Place) :
    List Place → List Place
  | [] => places
  | other :: others =>
    if first.index < other.index then first :: withoutRest (other :: others)
    else if other.index < first.index then removeFrom first places withoutRest others
    else withoutRest others

/-- The places of an ascending list that are not in another one. -/
def without : List Place → List Place → List Place
  | [] => fun _ => []
  | first :: rest => removeFrom first (first :: rest) (without rest)

end Place

/-- Whether a condition holds at a place. -/
def Look.holds (condition : Look) (place : Place) : Bool :=
  match condition with
  | start => place.before.isNone
  | finish => place.rest.isEmpty
  | wordBoundary => place.afterWord != place.beforeWord
  | noWordBoundary => place.afterWord == place.beforeWord
  | wordStart => !place.afterWord && place.beforeWord
  | wordEnd => place.afterWord && !place.beforeWord
  | wordStartHalf => !place.afterWord
  | wordEndHalf => !place.beforeWord

/-- A step taken a number of times. Where one step stands still, so do all that follow it. -/
def exactly (step : List Place → List Place) : Nat → List Place → List Place
  | 0, places => places
  | count + 1, places =>
    if places.isEmpty then []
    else
      let next := step places
      if next = places then places else exactly step count next

/-- The places reached by at most so many further steps. `frontier` holds what the last step
reached first. -/
def upTo (step : List Place → List Place) : Nat → (frontier reached : List Place) → List Place
  | 0, _, reached => reached
  | count + 1, frontier, reached =>
    let fresh := Place.without (step frontier) reached
    if fresh.isEmpty then reached else upTo step count fresh (Place.merge reached fresh)

/-- How many steps can reach new places from some places: one for every character after the
first of them. -/
def stepBound (places : List Place) : Nat := (places.head?.map fun p => p.rest.length + 1).getD 0

mutual

/-- The places where a match ends that begins at one of the given places. -/
def ends : Regex → List Place → List Place
  | empty, places => places
  | chars set, places => places.filterMap (Place.advance? set)
  | look condition, places => places.filter condition.holds
  | group _ body, places => ends body places
  | concat parts, places => endsOfAll parts places
  | alternation branches, places => endsOfAny branches places
  | repetition body least greatest, places =>
    let first := exactly (ends body) least places
    let bound := stepBound first
    upTo (ends body) ((greatest.map fun most => min (most - least) bound).getD bound) first first

/-- The places where a match of one after another ends. -/
def endsOfAll : List Regex → List Place → List Place
  | [], places => places
  | first :: rest, places => endsOfAll rest (ends first places)

/-- The places where a match of one of several ends. -/
def endsOfAny : List Regex → List Place → List Place
  | [], _ => []
  | first :: rest, places => Place.merge (ends first places) (endsOfAny rest places)

end

/-- Whether an expression matches somewhere in a text. -/
def isMatch (expression : Regex) (text : List Char) : Bool :=
  !(expression.ends (Place.all text)).isEmpty

end ApiStub.Regex
