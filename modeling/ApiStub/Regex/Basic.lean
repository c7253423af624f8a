import ApiStub.Regex.CharClass

/-!
# Regular expressions

The structure of a regular expression. Sequences and alternatives of fewer than two members are
written without their node, so that `depth` counts what is nested and nothing else.
-/

namespace ApiStub

/-- A condition on a place between two characters. -/
inductive Regex.Look where
  /-- The place before the first character. -/
  | start
  /-- The place after the last character. -/
  | finish
  /-- Between a character of words and one that is none. -/
  | wordBoundary
  /-- Between two characters of words, or between two others. -/
  | noWordBoundary
  /-- The beginning of a word. -/
  | wordStart
  /-- The end of a word. -/
  | wordEnd
  /-- Not after a character of words. -/
  | wordStartHalf
  /-- Not before a character of words. -/
  | wordEndHalf
  deriving DecidableEq, Repr

/-- A regular expression. -/
inductive Regex where
  /-- The empty text. -/
  | empty
  /-- One character of a class. -/
  | chars (set : Regex.CharClass)
  /-- A condition on the place. -/
  | look (condition : Regex.Look)
  /-- Parentheses. -/
  | group (captures : Bool) (body : Regex)
  /-- One after another. -/
  | concat (parts : List Regex)
  /-- One of several. -/
  | alternation (branches : List Regex)
  /-- A number of times; without `greatest` as often as one likes. -/
  | repetition (body : Regex) (least : Nat) (greatest : Option Nat)
  deriving Inhabited

namespace Regex

/-- The sequence of some parts. -/
def ofParts : List Regex → Regex
  | [] => empty
  | [part] => part
  | parts => concat parts

/-- The choice between some branches. -/
def ofBranches : List Regex → Regex
  | [branch] => branch
  | branches => alternation branches

mutual

/-- How deep groups, repetitions, sequences, alternatives and classes are nested. -/
def depth : Regex → Nat
  | empty | look _ => 0
  | chars set => set.depth
  | group _ body => body.depth + 1
  | concat parts => depthOfAll parts + 1
  | alternation branches => depthOfAll branches + 1
  | repetition body _ _ => body.depth + 1

/-- The greatest depth of several expressions. -/
def depthOfAll : List Regex → Nat
  | [] => 0
  | first :: rest => max first.depth (depthOfAll rest)

end

end Regex

end ApiStub
