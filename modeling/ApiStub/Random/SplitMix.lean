import ApiStub.Random.Source

/-!
# Scripted words

A source that first yields a given list of words and then those of SplitMix64, a generator whose
state is a counter and whose output scrambles it. A word of 32 bits is the low half of the next
word.
-/

namespace ApiStub

/-- Words to yield first, and the state of the generator after them. -/
structure ScriptedWords where
  /-- The words to yield first. -/
  script : List UInt64 := []
  /-- The counter of the generator. -/
  counter : UInt64 := 0

namespace ScriptedWords

/-- The output of a counter value. -/
def scramble (counter : UInt64) : UInt64 :=
  let mixed := (counter ^^^ (counter >>> 30)) * 0xBF58476D1CE4E5B9
  let mixed := (mixed ^^^ (mixed >>> 27)) * 0x94D049BB133111EB
  mixed ^^^ (mixed >>> 31)

/-- The next word and the state after it. -/
def next (source : ScriptedWords) : UInt64 × ScriptedWords :=
  match source.script with
  | word :: rest => (word, { source with script := rest })
  | [] =>
    let counter := source.counter + 0x9E3779B97F4A7C15
    (scramble counter, { source with counter })

instance : WordSource ScriptedWords where
  next64 := next
  next32 source :=
    let (word, source) := source.next
    (word.toUInt32, source)

end ScriptedWords

end ApiStub
