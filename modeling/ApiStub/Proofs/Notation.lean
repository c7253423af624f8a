import ApiStub.Pattern.Reader
import ApiStub.Regex.Reader

/-!
# The notation of patterns

The part of the notation of regular expressions that texts are drawn from, as a tree. Every tree is
well formed: what must not stand in a place cannot be put there, so the text of a tree is never
read as something else. A tree has a text, a pattern to draw from, and a regular expression; that
both readers find these in the text is shown elsewhere.

An atom has at most one quantifier. The anchors stand among the atoms, but a tree that is drawn
from has them at its two ends only.
-/

namespace ApiStub.Notation

open Pattern (CharRange CharSet)
open Regex (CharClass)

/-- The characters that have a meaning outside of classes. -/
def structural : List Char :=
  ['\\', '.', '+', '*', '?', '(', ')', '|', '[', ']', '{', '}', '^', '$']

/-- The characters that may be escaped to stand for themselves. -/
def escapable : List Char := structural ++ ['#', '&', '-', '~']

/-- The characters that have a meaning inside of classes. -/
def classStructural : List Char := [']', '[', '\\', '^', '-', '&', '~']

/-- A class that a letter stands for. -/
inductive Shorthand where
  | digits
  | words
  | blanks

namespace Shorthand

/-- The letter after the backslash; the great one stands for all other characters. -/
def letter : Shorthand → (negated : Bool) → Char
  | digits, false => 'd'
  | digits, true => 'D'
  | words, false => 'w'
  | words, true => 'W'
  | blanks, false => 's'
  | blanks, true => 'S'

def ranges : Shorthand → List CharRange
  | digits => CharSet.digits
  | words => CharSet.wordParts
  | blanks => CharSet.blanks

def charClass : Shorthand → CharClass
  | digits => .digit
  | words => .word
  | blanks => .space

end Shorthand

/-- A control character that a letter stands for. -/
inductive Control where
  | lineFeed
  | tab
  | carriageReturn

namespace Control

def letter : Control → Char
  | lineFeed => 'n'
  | tab => 't'
  | carriageReturn => 'r'

def char : Control → Char
  | lineFeed => '\n'
  | tab => '\t'
  | carriageReturn => '\r'

end Control

/-- A member of a class. -/
inductive Item where
  | single (c : Char) (plain : c ∉ classStructural)
  | range (least greatest : Char) (least_plain : least ∉ classStructural)
      (greatest_plain : greatest ∉ classStructural) (ordered : least ≤ greatest)
  | shorthand (kind : Shorthand)

namespace Item

def text : Item → List Char
  | single c _ => [c]
  | range least greatest _ _ _ => [least, '-', greatest]
  | shorthand kind => ['\\', kind.letter false]

def ranges : Item → List CharRange
  | single c _ => [.single c]
  | range least greatest _ _ _ => [⟨least, greatest⟩]
  | shorthand kind => kind.ranges

def charClass : Item → CharClass
  | single c _ => .single c
  | range least greatest _ _ _ => .ranges [⟨least.toNat, greatest.toNat⟩]
  | shorthand kind => kind.charClass

end Item

/-- A number in decimal digits. -/
structure Numeral where
  digits : List Char
  nonempty : digits ≠ []
  decimal : ∀ c ∈ digits, c.isDigit

/-- The number that the digits spell. -/
def Numeral.value (numeral : Numeral) : Nat := Text.decimal numeral.digits

/-- How often an atom is repeated. -/
inductive Counts where
  | star
  | plus
  | optional
  | exactly (count : Numeral)
  | atLeast (least : Numeral)
  | between (least greatest : Numeral) (ordered : least.value ≤ greatest.value)

namespace Counts

def text : Counts → List Char
  | star => ['*']
  | plus => ['+']
  | optional => ['?']
  | exactly count => '{' :: (count.digits ++ ['}'])
  | atLeast least => '{' :: (least.digits ++ [',', '}'])
  | between least greatest _ => '{' :: (least.digits ++ ',' :: (greatest.digits ++ ['}']))

/-- The bounds that counts are drawn between. An open count has an upper end of 32 bits. -/
def bounds : Counts → Nat × Nat
  | star => (0, Pattern.openSlack)
  | plus => (1, 1 + Pattern.openSlack)
  | optional => (0, 1)
  | exactly count => (count.value, count.value)
  | atLeast least => (least.value, (least.value + Pattern.openSlack) % 2 ^ 32)
  | between least greatest _ => (least.value, greatest.value)

/-- The counts that match. -/
def limits : Counts → Nat × Option Nat
  | star => (0, none)
  | plus => (1, none)
  | optional => (0, some 1)
  | exactly count => (count.value, some count.value)
  | atLeast least => (least.value, none)
  | between least greatest _ => (least.value, some greatest.value)

/-- The numbers have 32 bits. -/
def Fits : Counts → Prop
  | exactly count => count.value < 2 ^ 32
  | atLeast least => least.value < 2 ^ 32
  | between least greatest _ => least.value < 2 ^ 32 ∧ greatest.value < 2 ^ 32
  | _ => True

/-- The upper end of an open count has 32 bits as well. -/
def Drawable : Counts → Prop
  | atLeast least => least.value + Pattern.openSlack < 2 ^ 32
  | _ => True

end Counts

/-- Counts that may be marked as lazy. -/
structure Quantifier where
  counts : Counts
  lazily : Bool

/-- The text of a quantifier. -/
def Quantifier.text (quantifier : Quantifier) : List Char :=
  quantifier.counts.text ++ if quantifier.lazily then ['?'] else []

mutual

/-- Sequences between bars. -/
inductive Branches where
  | last (sequence : Sequence)
  | more (sequence : Sequence) (rest : Branches)

/-- Atoms side by side, each with a quantifier or without one. -/
inductive Sequence where
  | nil
  | cons (atom : Atom) (quantifier : Option Quantifier) (rest : Sequence)

/-- What a quantifier applies to. -/
inductive Atom where
  | anchor (finish : Bool)
  | literal (c : Char) (plain : c ∉ structural)
  | escaped (c : Char) (special : c ∈ escapable)
  | any
  | shorthand (kind : Shorthand) (negated : Bool)
  | control (control : Control)
  | bracket (negated : Bool) (first : Item) (rest : List Item)
  | group (captures : Bool) (body : Branches)

end

/-- The ranges of a class. -/
def rangesOf (items : List Item) : List CharRange := items.flatMap Item.ranges

/-! ## Texts -/

def markText (quantifier : Option Quantifier) : List Char :=
  (quantifier.map Quantifier.text).getD []

/-- The first character of an atom. -/
def Atom.head : Atom → Char
  | anchor false => '^'
  | anchor true => '$'
  | literal c _ => c
  | escaped _ _ | shorthand _ _ | control _ => '\\'
  | any => '.'
  | bracket _ _ _ => '['
  | group _ _ => '('

mutual

def Branches.text : Branches → List Char
  | .last sequence => sequence.text
  | .more sequence rest => sequence.text ++ '|' :: rest.text

def Sequence.text : Sequence → List Char
  | .nil => []
  | .cons atom quantifier rest => atom.head :: (atom.tail ++ (markText quantifier ++ rest.text))

/-- What follows the first character of an atom. -/
def Atom.tail : Atom → List Char
  | .anchor _ | .literal _ _ | .any => []
  | .escaped c _ => [c]
  | .shorthand kind negated => [kind.letter negated]
  | .control control => [control.letter]
  | .bracket negated first rest =>
    (if negated then ['^'] else []) ++ ((first :: rest).flatMap Item.text ++ [']'])
  | .group captures body => (if captures then [] else ['?', ':']) ++ (body.text ++ [')'])

end

/-! ## Patterns -/

/-- An atom with its quantifier. -/
def repeatedPattern (quantifier : Option Quantifier) (atom : Pattern) : Pattern :=
  match quantifier with
  | none => atom
  | some quantifier => .repeated atom quantifier.counts.bounds.1 quantifier.counts.bounds.2

mutual

def Branches.patterns : Branches → List (List Pattern)
  | .last sequence => [sequence.patterns]
  | .more sequence rest => sequence.patterns :: rest.patterns

def Sequence.patterns : Sequence → List Pattern
  | .nil => []
  | .cons atom quantifier rest => repeatedPattern quantifier atom.pattern :: rest.patterns

def Atom.pattern : Atom → Pattern
  | .anchor _ => .empty
  | .literal c _ | .escaped c _ => .literal c
  | .any => .oneOf ⟨CharSet.alphanumerics, false⟩
  | .shorthand kind negated => .oneOf ⟨kind.ranges, negated⟩
  | .control control => .literal control.char
  | .bracket negated first rest => .oneOf ⟨rangesOf (first :: rest), negated⟩
  | .group _ body => .choice body.patterns

end

/-! ## Expressions -/

/-- An atom with its quantifier. -/
def repeatedExpression (quantifier : Option Quantifier) (atom : Regex) : Regex :=
  match quantifier with
  | none => atom
  | some quantifier => .repetition atom quantifier.counts.limits.1 quantifier.counts.limits.2

mutual

def Branches.expressions : Branches → List Regex
  | .last sequence => [.ofParts sequence.expressions]
  | .more sequence rest => .ofParts sequence.expressions :: rest.expressions

def Sequence.expressions : Sequence → List Regex
  | .nil => []
  | .cons atom quantifier rest => repeatedExpression quantifier atom.expression :: rest.expressions

def Atom.expression : Atom → Regex
  | .anchor false => .look .start
  | .anchor true => .look .finish
  | .literal c _ | .escaped c _ => .chars (.single c)
  | .any => .chars .anyInLine
  | .shorthand kind false => .chars kind.charClass
  | .shorthand kind true => .chars (.complement kind.charClass)
  | .control control => .chars (.single control.char)
  | .bracket negated first rest =>
    .chars (.bracket negated (.ofMembers ((first :: rest).map Item.charClass)))
  | .group captures body => .group captures (.ofBranches body.expressions)

end

/-! ## Conditions -/

mutual

/-- All numbers have 32 bits. -/
def Branches.Fits : Branches → Prop
  | .last sequence => sequence.Fits
  | .more sequence rest => sequence.Fits ∧ rest.Fits

def Sequence.Fits : Sequence → Prop
  | .nil => True
  | .cons atom quantifier rest =>
    atom.Fits ∧ (∀ q ∈ quantifier, q.counts.Fits) ∧ rest.Fits

def Atom.Fits : Atom → Prop
  | .group _ body => body.Fits
  | _ => True

end

/-- The range lies on one side of the surrogates. -/
def Aside (range : CharRange) : Prop := range.greatest.toNat < 0xD800 ∨ 0xDFFF < range.least.toNat

/-- A character can be drawn: no range crosses the surrogates and the 32 bit count of the code
points that the ranges span is not back at zero, or, for a negated class, a printable character is
left. -/
def DrawableSet (negated : Bool) (ranges : List CharRange) : Prop :=
  if negated then CharSet.outside ⟨ranges, true⟩ ≠ []
  else (∀ range ∈ ranges, Aside range) ∧ CharSet.span ranges ≠ 0

instance (range : CharRange) : Decidable (Aside range) :=
  inferInstanceAs (Decidable (_ ∨ _))

instance (negated : Bool) (ranges : List CharRange) : Decidable (DrawableSet negated ranges) :=
  inferInstanceAs (Decidable (if negated then _ ≠ _ else _ ∧ _))

mutual

/-- Every class can be drawn from, every open count has an upper end, and no anchor stands
anywhere. -/
def Branches.Drawable : Branches → Prop
  | .last sequence => sequence.Drawable
  | .more sequence rest => sequence.Drawable ∧ rest.Drawable

def Sequence.Drawable : Sequence → Prop
  | .nil => True
  | .cons atom quantifier rest =>
    atom.Drawable ∧ (∀ q ∈ quantifier, q.counts.Drawable) ∧ rest.Drawable

def Atom.Drawable : Atom → Prop
  | .anchor _ => False
  | .bracket negated first rest => DrawableSet negated (rangesOf (first :: rest))
  | .group _ body => body.Drawable
  | _ => True

end

/-! ## Anchors -/

/-- The sequence with anchors at its ends. -/
def Sequence.anchored (start finish : Bool) (sequence : Sequence) : Sequence :=
  if start then .cons (.anchor false) none (ending sequence) else ending sequence
where
  /-- The sequence with an anchor at its end. -/
  ending : Sequence → Sequence
    | .nil => if finish then .cons (.anchor true) none .nil else .nil
    | .cons atom quantifier rest => .cons atom quantifier (ending rest)

/-- The branches with anchors before the first and after the last. -/
def Branches.anchored (start finish : Bool) : Branches → Branches
  | .last sequence => .last (sequence.anchored start finish)
  | .more sequence rest =>
    .more (sequence.anchored start false) (rest.anchored false finish)

/-- The text of some branches between the anchors that are wanted. -/
def Branches.source (start finish : Bool) (branches : Branches) : List Char :=
  (if start then ['^'] else []) ++ (branches.text ++ if finish then ['$'] else [])

theorem Sequence.text_ending (finish : Bool) (sequence : Sequence) :
    (anchored.ending finish sequence).text =
      sequence.text ++ if finish then ['$'] else [] := by
  match sequence with
  | .nil => cases finish <;> rfl
  | .cons atom quantifier rest =>
      have ih := rest.text_ending finish
      simp only [anchored.ending, Sequence.text, ih, List.cons_append, List.append_assoc]

theorem Sequence.text_anchored (start finish : Bool) (sequence : Sequence) :
    (sequence.anchored start finish).text =
      (if start then ['^'] else []) ++ (sequence.text ++ if finish then ['$'] else []) := by
  rw [← sequence.text_ending finish]
  cases start <;> rfl

/-- The text of a tree with anchors is the text without them between the anchors. -/
theorem Branches.text_anchored (start finish : Bool) (branches : Branches) :
    (branches.anchored start finish).text = branches.source start finish := by
  match branches with
  | .last sequence => exact sequence.text_anchored start finish
  | .more sequence rest =>
      have ih := rest.text_anchored false finish
      simp only [Branches.source] at ih ⊢
      simp only [Branches.anchored, Branches.text, sequence.text_anchored, ih]
      simp

end ApiStub.Notation
