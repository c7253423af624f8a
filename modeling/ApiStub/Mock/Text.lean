import ApiStub.Random.Uniform
import ApiStub.Mock.Vocabulary

/-!
# Filler text

Words joined by single spaces and cut to a drawn length. The first letter is a capital, and a cut
right after a word leaves a letter in the place of the space.
-/

namespace ApiStub.Mock

variable {σ : Type} [WordSource σ]

/-- A word with only its ASCII letters and digits; it may be empty. -/
def word (vocabulary : Vocabulary) : Draw σ (List Char) :=
  (fun word => (word.getD "").toList.filter Char.isAlphanum) <$> Draw.choose? vocabulary.words

/-- The word, or another one in the place of an empty one. -/
def orElse (fallback : String) (word : List Char) : List Char :=
  if word.isEmpty then fallback.toList else word

/-- Appends words until there are `target` characters. `done` holds the text in reverse, and each
word has a character at least, so `target` rounds suffice. -/
def gatherWords (vocabulary : Vocabulary) (target : Nat) :
    Nat → Nat → List Char → Draw σ (List Char)
  | 0, _, done => pure done
  | rounds + 1, length, done =>
    if target ≤ length then pure done
    else do
      let next := orElse "lorem" (← word vocabulary)
      let spaced := if done.isEmpty then done else ' ' :: done
      let gap := if done.isEmpty then 0 else 1
      gatherWords vocabulary target rounds (length + gap + next.length) (next.reverse ++ spaced)

/-- Puts a letter in the place of a space at the end. -/
def closeText (text : List Char) : List Char :=
  if text.getLast? == some ' ' then text.dropLast ++ ['s'] else text

/-- Makes the first letter a capital. -/
def capitalize : List Char → List Char
  | [] => []
  | c :: rest => c.toUpper :: rest

/-- Text of exactly `target` characters. -/
def textOfLength (vocabulary : Vocabulary) (target : Nat) : Draw σ (List Char) :=
  (fun gathered => capitalize (closeText (gathered.reverse.take target))) <$>
    gatherWords vocabulary target target 0 []

/-- Text of at least `least` and at most `greatest` characters; an inverted range collapses to its
lower end. -/
def text (vocabulary : Vocabulary) (least greatest : Nat) : Draw σ String := do
  let target ← Draw.natBetween .bits64 least (max greatest least)
  String.ofList <$> textOfLength vocabulary target

end ApiStub.Mock
