import ApiStub.Regex.ByteRanges
import ApiStub.Regex.Reader

/-!
# The size of an automaton

A regular expression is accepted when the automata that read its bytes forwards and backwards are
not too large. A repetition with counts has a copy of its body for every time, so a short notation
can stand for a large automaton. Forwards, the states of a class are shared as far as what follows
is the same; backwards, as far as what came before is the same.

Sizes are bytes: 32 for a state, and more for the transitions of a state that has several.
-/

namespace ApiStub.Regex

open Unicode (Range)

/-- The sizes of the two automata. -/
structure Size where
  /-- The automaton that reads forwards. -/
  forward : Nat
  /-- The automaton that reads backwards. -/
  backward : Nat
  deriving DecidableEq, Repr, Inhabited

namespace Size

/-- The size of so many bytes in both automata. -/
def both (bytes : Nat) : Size := ⟨bytes, bytes⟩

/-- The sizes of two automata side by side. -/
def add (left right : Size) : Size :=
  ⟨left.forward + right.forward, left.backward + right.backward⟩

instance : Add Size := ⟨add⟩

/-- The size of several copies. -/
def times (count : Nat) (size : Size) : Size := ⟨count * size.forward, count * size.backward⟩

end Size

/-- The size of a state. -/
def stateSize : Nat := 32

/-- The size of a transition on a range of bytes. -/
def transitionSize : Nat := 8

/-- The size of a transition on nothing. -/
def branchSize : Nat := 4

/-- So many states in both automata. -/
def states (count : Nat) : Size := .both (count * stateSize)

/-- A state with a choice between two. -/
def forkSize : Size := .both (stateSize + 2 * branchSize)

/-- The transitions of a state; zero stands for the end of the class. -/
abbrev Transitions := List (Range × Nat)

/-- Adds a state to those of a class unless it is among them, and tells its number. -/
def shareState (transitions : Transitions) (known : List Transitions) :
    Nat × List Transitions :=
  match known.findIdx? (· = transitions) with
  | some index => (known.length - index, known)
  | none => (known.length + 1, transitions :: known)

/-- The state that reads some sequences of at most `depth` byte ranges, with all states that come
after it. -/
def shareStates : Nat → List (List Range) → List Transitions → Nat × List Transitions
  | 0, _, known => (0, known)
  | depth + 1, sequences, known =>
    let (transitions, known) := (groupHeads sequences).foldl
      (fun (transitions, known) (head, tails) =>
        let (next, known) :=
          if tails.all List.isEmpty then (0, known) else shareStates depth tails known
        (transitions ++ [(head, next)], known)) (([] : Transitions), known)
    shareState transitions known

/-- The size of the states that read sequences forwards. -/
def forwardSize (sequences : List (List Range)) : Nat :=
  let (_, known) := shareStates 4 sequences []
  (known.map fun transitions => stateSize + transitions.length * transitionSize).sum

/-- How many beginnings some sequences of at most `depth` byte ranges have. -/
def beginnings : Nat → List (List Range) → Nat
  | 0, _ => 0
  | depth + 1, sequences =>
    ((groupHeads sequences).map fun (_, tails) => 1 + beginnings depth tails).sum

/-- The size of a class of some ranges. -/
def sizeOfRanges (ranges : List Range) : Size :=
  match ranges with
  | [⟨least, greatest⟩] =>
    if least = greatest then states (utf8Bytes least).length
    else sizeOfMany ranges
  | _ => sizeOfMany ranges
where
  /-- The size of a class that is no single character. -/
  sizeOfMany (ranges : List Range) : Size :=
    if ranges.all fun range => range.greatest < 0x80 then
      states 2 + .both (ranges.length * transitionSize)
    else
      let sequences := ranges.flatMap byteSequences
      states 1 +
        ⟨forwardSize sequences,
          stateSize + beginnings 4 sequences * stateSize + sequences.length * branchSize⟩

/-- The size of the class of words, which is too large to be counted each time. -/
def wordSize : Size := sizeOfRanges CharClass.word.toRanges

/-- The size of the class of all that belongs to no word. -/
def noWordSize : Size := sizeOfRanges (CharClass.complement .word).toRanges

/-- The size of a class. -/
def CharClass.size : CharClass → Size
  | .word => wordSize
  | .complement .word => noWordSize
  | set => sizeOfRanges set.toRanges

mutual

/-- Whether an expression matches nothing but the empty text. -/
def isVoid : Regex → Bool
  | empty | look _ => true
  | chars _ => false
  | group _ body => body.isVoid
  | concat parts => allVoid parts
  | alternation branches => allVoid branches
  | repetition body _ greatest => greatest == some 0 || body.isVoid

/-- Whether all of some expressions match nothing but the empty text. -/
def allVoid : List Regex → Bool
  | [] => true
  | first :: rest => first.isVoid && allVoid rest

end

mutual

/-- Whether an expression may match the empty text, going by its counts alone. -/
def admitsVoid : Regex → Bool
  | empty | look _ => true
  | chars _ => false
  | group _ body => body.admitsVoid
  | concat parts => allAdmitVoid parts
  | alternation branches => anyAdmitsVoid branches
  | repetition body least _ => least == 0 || body.admitsVoid

/-- Whether all of some expressions may match the empty text. -/
def allAdmitVoid : List Regex → Bool
  | [] => true
  | first :: rest => first.admitsVoid && allAdmitVoid rest

/-- Whether one of some expressions may match the empty text. -/
def anyAdmitsVoid : List Regex → Bool
  | [] => false
  | first :: rest => first.admitsVoid || anyAdmitsVoid rest

end

mutual

/-- The class that an expression amounts to, when all it can match is one character. -/
def class? : Regex → Option CharClass
  | chars set => some set
  | group false body => body.class?
  | alternation branches => (classes? branches).map .union
  | _ => none

/-- The classes that expressions amount to. -/
def classes? : List Regex → Option (List CharClass)
  | [] => some []
  | first :: rest => do
    let set ← first.class?
    let sets ← classes? rest
    some (set :: sets)

end

/-- The counts of a repetition that matter: what is always empty need not be repeated. -/
def effectiveCounts (body : Regex) (least : Nat) (greatest : Option Nat) : Nat × Option Nat :=
  if body.isVoid then (min least 1, some (min (greatest.getD 1) 1)) else (least, greatest)

/-- The size of a repetition of a body of some size. -/
def repetitionSize (body : Size) (admitsVoid : Bool) (least : Nat) (greatest : Option Nat) :
    Size :=
  match greatest with
  | none =>
    if least == 0 then
      if admitsVoid then body + forkSize + forkSize + states 1 else body + forkSize
    else body.times least + forkSize
  | some greatest =>
    if least == 0 && greatest == 0 then states 1
    else if least == 1 && greatest == 1 then body
    else if least == greatest then body.times least
    else
      (if least == 0 then states 1 else body.times least) +
        (if least == 0 && greatest == 1 then .both 0 else states 1) +
        (body + forkSize).times (greatest - least)

mutual

/-- The size of the automata of an expression. -/
def size : Regex → Size
  | empty | look _ => states 1
  | chars set => set.size
  | group captures body => body.size + if captures then ⟨2 * stateSize, 0⟩ else .both 0
  | concat parts => sizeOfAll parts
  | alternation branches =>
    match classes? branches with
    | some sets => (CharClass.union sets).size
    | none => sizeOfAll branches + states 2 + .both (branches.length * branchSize)
  | repetition body least greatest =>
    let (least, greatest) := effectiveCounts body least greatest
    repetitionSize body.size body.admitsVoid least greatest

/-- The sizes of several expressions together. -/
def sizeOfAll : List Regex → Size
  | [] => .both 0
  | first :: rest => first.size + sizeOfAll rest

end

/-- What the automata have beside the expression: the search for the place where a match begins,
the bounds of the whole match, and its end. -/
def frameSize : Size := states 5 + .both (2 * branchSize)

/-- The greatest size that is accepted. -/
def maxSize : Nat := 10 * 2 ^ 20

/-- Whether the automata of an expression are small enough. -/
def isSmall (expression : Regex) : Bool :=
  let size := expression.size + frameSize
  size.forward ≤ maxSize && size.backward ≤ maxSize

/-- The expression that a text writes, when its automata are small enough. -/
def compile? (source : List Char) : Option Regex := (read? source).filter isSmall

end ApiStub.Regex
