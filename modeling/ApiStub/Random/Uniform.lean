import ApiStub.Decimal.Binary64
import ApiStub.Random.Source

/-!
# Uniform draws

Numbers, list members, truth values and fractions drawn from a source. A number below `count` is
the high half of the product of a word and `count`; products whose low half falls above a zone are
drawn again, so that every number has equally many words.
-/

namespace ApiStub.Draw

variable {σ α : Type} [WordSource σ]

/-- The two word sizes. -/
inductive Width where
  | bits32
  | bits64
  deriving DecidableEq, Repr

/-- How many words of the size there are. -/
def Width.words : Width → Nat
  | bits32 => 2 ^ 32
  | bits64 => 2 ^ 64

/-- A word of the given size, as a number. -/
def word : Width → Draw σ Nat
  | .bits32 => fun source =>
    let (word, source) := WordSource.next32 source
    (word.toNat, source)
  | .bits64 => fun source =>
    let (word, source) := WordSource.next64 source
    (word.toNat, source)

/-- The greatest low half that is accepted: `count`, shifted until its top bit is the top bit of a
word, less one. -/
def acceptedUpTo (width : Width) (count : Nat) : Nat :=
  count * (width.words / 2 ^ (count.log2 + 1)) - 1

/-- Draws until a product is accepted, at most the given number of times. A source that never
yields an acceptable word is cut off with the least number. -/
def belowWithin (width : Width) (count : Nat) : Nat → Draw σ Nat
  | 0 => pure 0
  | rounds + 1 => do
    let word ← word width
    let product := word * count
    if product % width.words ≤ acceptedUpTo width count then pure (product / width.words)
    else belowWithin width count rounds

/-- More rounds than any source can be expected to reject. -/
def maxRounds : Nat := 2 ^ 40

/-- A number below `count`, which is at most the number of words. -/
def below (width : Width) (count : Nat) : Draw σ Nat :=
  if count == 0 then noNumber
  else if count == width.words then word width
  else belowWithin width count maxRounds

/-- A natural number from `least` to `greatest`. -/
def natBetween (width : Width) (least greatest : Nat) : Draw σ Nat :=
  if greatest < least then noNumber else (least + ·) <$> below width (greatest - least + 1)

/-- A signed number of 64 bits from `least` to `greatest`. Over the full range it is the word
itself in two's complement. -/
def intBetween (least greatest : Int) : Draw σ Int :=
  let count := (greatest - least + 1).toNat
  if count == Width.bits64.words then
    (fun word => if word < 2 ^ 63 then (word : Int) else word - 2 ^ 64) <$> word .bits64
  else (fun offset : Nat => least + offset) <$> below .bits64 count

/-- A member of a list; none of an empty one, which draws nothing. -/
def choose? (values : List α) : Draw σ (Option α) :=
  match values with
  | [] => pure none
  | values => (fun index => values[index]?) <$> below .bits32 values.length

/-- The threshold below which a word means true: `p · 2 ^ 64`, rounded down. -/
def threshold (p : Float) : Nat :=
  match Binary64.ofFloat? p with
  | some value => ({ value with exponent := value.exponent + 64 } : Binary64).floor.toNat
  | none => 0

/-- True with probability `p`. Certainty draws nothing. -/
def chance (p : Float) : Draw σ Bool :=
  if p == 1.0 then pure true
  else (fun word => decide (word < threshold p)) <$> word .bits64

/-- A multiple of `2 ^ -53` from zero inclusive to one exclusive. -/
def fraction : Draw σ Float :=
  (fun word => Float.ofNat (word / 2 ^ 11) / 9007199254740992.0) <$> word .bits64

/-- The results of running a draw several times, in order. -/
def repeated (draw : Draw σ α) : Nat → List α → Draw σ (List α)
  | 0, done => pure done.reverse
  | count + 1, done => do
    let value ← draw
    repeated draw count (value :: done)

/-- The results of running a draw `count` times. -/
def times (count : Nat) (draw : Draw σ α) : Draw σ (List α) := repeated draw count []

end ApiStub.Draw
