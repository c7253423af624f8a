/-!
# Sources of random words

A source is a state from which words of 32 and of 64 bits are taken. Everything random in this
library is a function of a source, so a statement about every run is a statement about every
source.

A number can only be drawn from a range that has one. A run that asks for a number from an empty
range cannot go on, and the source is told of it; a `Watched` source remembers, so that the run can
be seen to have no result.
-/

namespace ApiStub

/-- A state that yields words. -/
class WordSource (σ : Type) where
  /-- The next word of 32 bits, and the state after it. -/
  next32 : σ → UInt32 × σ
  /-- The next word of 64 bits, and the state after it. -/
  next64 : σ → UInt64 × σ
  /-- The state after a number was asked for from an empty range. -/
  refuse : σ → σ := id

/-- A source that remembers whether a number was asked for from an empty range. -/
structure Watched (σ : Type) where
  /-- Where the words come from. -/
  words : σ
  /-- Whether a number was asked for that there is not. -/
  refused : Bool := false

instance {σ : Type} [WordSource σ] : WordSource (Watched σ) where
  next32 watched :=
    let (word, words) := WordSource.next32 watched.words
    (word, { watched with words })
  next64 watched :=
    let (word, words) := WordSource.next64 watched.words
    (word, { watched with words })
  refuse watched := { watched with refused := true }

/-- A computation that takes words from a source. -/
abbrev Draw (σ α : Type) := StateM σ α

/-- The number of an empty range: there is none, and what is drawn after it is of no matter. -/
def Draw.noNumber {σ : Type} [WordSource σ] : Draw σ Nat :=
  fun source => (0, WordSource.refuse source)

/-- What is drawn from a source, unless a number is asked for from an empty range. -/
def Draw.result? {σ α : Type} (draw : Draw (Watched σ) α) (words : σ) : Option α :=
  let (value, after) := draw.run { words }
  if after.refused then none else some value

/-- `draw.Yields p`: whatever the source, the result satisfies `p`. -/
def Draw.Yields {σ α : Type} (draw : Draw σ α) (p : α → Prop) : Prop :=
  ∀ source, p (draw.run source).1

namespace Draw

variable {σ α β : Type}

theorem yields_pure {value : α} {p : α → Prop} (holds : p value) :
    (pure value : Draw σ α).Yields p :=
  fun _ => holds

theorem Yields.bind {draw : Draw σ α} {next : α → Draw σ β} {p : α → Prop} {q : β → Prop}
    (first : draw.Yields p) (rest : ∀ value, p value → (next value).Yields q) :
    (draw >>= next).Yields q :=
  fun source => rest _ (first source) _

theorem Yields.map {draw : Draw σ α} {f : α → β} {p : α → Prop} {q : β → Prop}
    (first : draw.Yields p) (imp : ∀ value, p value → q (f value)) :
    (f <$> draw).Yields q :=
  fun source => imp _ (first source)

theorem Yields.imp {draw : Draw σ α} {p q : α → Prop} (first : draw.Yields p)
    (imp : ∀ value, p value → q value) : draw.Yields q :=
  fun source => imp _ (first source)

theorem yields_trivial (draw : Draw σ α) : draw.Yields fun _ => True :=
  fun _ => trivial

end Draw

end ApiStub
