import ApiStub.Pattern.CharSet

/-!
# Patterns to draw texts from

A `Pattern` is what a regular expression leaves when only the texts it can produce matter: anchors
and word boundaries stand for the empty text, and every repetition has an upper end.
-/

namespace ApiStub

/-- A recipe for texts. -/
inductive Pattern where
  /-- The empty text. -/
  | empty
  /-- One character. -/
  | literal (c : Char)
  /-- A character of a set. -/
  | oneOf (set : Pattern.CharSet)
  /-- One of several sequences. -/
  | choice (branches : List (List Pattern))
  /-- A recipe carried out a number of times between two bounds. -/
  | repeated (body : Pattern) (least greatest : Nat)
  deriving Inhabited

namespace Pattern

variable {σ : Type} [WordSource σ]

/-- A step that puts characters in front of a text that is held in reverse, or gives up. -/
abbrev Emitter (σ : Type) := List Char → Draw σ (Option (List Char))

/-- One step after another, as long as none gives up. -/
def andThen (first second : Emitter σ) : Emitter σ := fun done => do
  match ← first done with
  | none => pure none
  | some done => second done

/-- The same step several times. -/
def iterate (step : Emitter σ) : Nat → Emitter σ
  | 0, done => pure (some done)
  | count + 1, done => do
    match ← step done with
    | none => pure none
    | some done => iterate step count done

mutual

/-- Puts a text of the pattern in front of `done`, in reverse. -/
def emit : Pattern → Emitter σ
  | empty => fun done => pure (some done)
  | literal c => fun done => pure (some (c :: done))
  | oneOf set => fun done => do
    match ← set.sample with
    | none => pure none
    | some c => pure (some (c :: done))
  | choice branches => fun done => do
    let index ← Draw.below .bits64 branches.length
    emitBranch branches index done
  | repeated body least greatest => fun done => do
    let count ← Draw.natBetween .bits32 least greatest
    iterate (emit body) count done

/-- Emits the branch with the given index. -/
def emitBranch : List (List Pattern) → Nat → Emitter σ
  | [], _ => fun _ => pure none
  | branch :: _, 0 => emitAll branch
  | _ :: rest, index + 1 => emitBranch rest index

/-- Emits the members of a sequence in order. -/
def emitAll : List Pattern → Emitter σ
  | [] => fun done => pure (some done)
  | first :: rest => andThen (emit first) (emitAll rest)

end

/-- A text of the pattern, or none when a set has no character to give. -/
def text? (pattern : Pattern) : Draw σ (Option (List Char)) :=
  Option.map List.reverse <$> pattern.emit []

end Pattern

end ApiStub
