import ApiStub.Random.Source

/-!
# ChaCha12 words

The words of the ChaCha stream cipher with twelve rounds: a block of sixteen words per value of a
64-bit counter, taken in order. A word of 64 bits is two words of 32 bits, the low one first. The
key is expanded from a seed of 64 bits.
-/

namespace ApiStub

/-- A position in the stream of a key. -/
structure ChaChaWords where
  /-- The eight words of the key. -/
  key : List UInt32
  /-- The counter of the next block. -/
  counter : UInt64 := 0
  /-- Words of the current block that were not taken yet. -/
  pending : List UInt32 := []

namespace ChaChaWords

/-- Rotates a word to the left. -/
def rotateLeft (word : UInt32) (count : UInt32) : UInt32 :=
  (word <<< count) ||| (word >>> (32 - count))

/-- The sixteen words a block is computed on. -/
abbrev Block := Array UInt32

/-- The quarter round on four positions of a block. -/
def quarterRound (block : Block) (i j k l : Nat) : Block :=
  let a := block.getD i 0
  let b := block.getD j 0
  let c := block.getD k 0
  let d := block.getD l 0
  let a := a + b
  let d := rotateLeft (d ^^^ a) 16
  let c := c + d
  let b := rotateLeft (b ^^^ c) 12
  let a := a + b
  let d := rotateLeft (d ^^^ a) 8
  let c := c + d
  let b := rotateLeft (b ^^^ c) 7
  (((block.setIfInBounds i a).setIfInBounds j b).setIfInBounds k c).setIfInBounds l d

/-- Two rounds: quarter rounds on the columns, then on the diagonals. -/
def doubleRound (block : Block) : Block :=
  let block := quarterRound block 0 4 8 12
  let block := quarterRound block 1 5 9 13
  let block := quarterRound block 2 6 10 14
  let block := quarterRound block 3 7 11 15
  let block := quarterRound block 0 5 10 15
  let block := quarterRound block 1 6 11 12
  let block := quarterRound block 2 7 8 13
  quarterRound block 3 4 9 14

/-- Several double rounds. -/
def doubleRounds : Nat → Block → Block
  | 0, block => block
  | count + 1, block => doubleRounds count (doubleRound block)

/-- The constant, the key, the counter and a zero nonce. -/
def initialBlock (key : List UInt32) (counter : UInt64) : Block :=
  let constant : List UInt32 := [0x61707865, 0x3320646e, 0x79622d32, 0x6b206574]
  (constant ++ key ++ [counter.toUInt32, (counter >>> 32).toUInt32, 0, 0]).toArray

/-- The words of the block of a counter. -/
def block (key : List UInt32) (counter : UInt64) : List UInt32 :=
  let start := initialBlock key counter
  (start.zipWith (· + ·) (doubleRounds 6 start)).toList

/-- The next word of 32 bits and the state after it. -/
def next32 (source : ChaChaWords) : UInt32 × ChaChaWords :=
  match source.pending with
  | word :: rest => (word, { source with pending := rest })
  | [] =>
    let advanced := { source with counter := source.counter + 1 }
    match block source.key source.counter with
    | word :: rest => (word, { advanced with pending := rest })
    | [] => (0, advanced)

instance : WordSource ChaChaWords where
  next32 := next32
  next64 source :=
    let (low, source) := next32 source
    let (high, source) := next32 source
    (low.toUInt64 ||| (high.toUInt64 <<< 32), source)

/-- The words of a key expanded from a seed: each is a scrambled state of a linear congruential
generator. -/
def expandKey : Nat → UInt64 → List UInt32
  | 0, _ => []
  | count + 1, state =>
    let state := state * 6364136223846793005 + 11634580027462260723
    let word := (((state >>> 18) ^^^ state) >>> 27).toUInt32
    let rotation := (state >>> 59).toUInt32
    rotateLeft word ((32 - rotation) % 32) :: expandKey count state

/-- The stream of a seed. -/
def ofSeed (seed : UInt64) : ChaChaWords := { key := expandKey 8 seed }

end ChaChaWords

end ApiStub
