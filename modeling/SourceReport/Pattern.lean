import SourceReport.Text.Blank
import SourceReport.Text.CharClass.Case
import SourceReport.Text.CharClass.Numbers

namespace SourceReport
open Text

namespace Pattern

inductive Category where
  | digit
  | space
  | word
  deriving DecidableEq

def Category.contains (ascii : Bool) : Category → Char → Bool
  | digit, c => if ascii then c.isDigit else isDecimal c
  | space, c => if ascii then isPlainBlank c else isBlank c
  | word, c => if ascii then c.isAlphanum || c == '_' else isWordChar c

/-- A part of a set of characters. Code points name the characters, so that a part may also stand
for code points that no character has. -/
inductive SetItem where
  | code (n : Nat)
  | range (first last : Nat)
  | category (name : Category) (negated : Bool)
  deriving DecidableEq

namespace SetItem

def contains (ascii : Bool) : SetItem → Char → Bool
  | code n, c => c.toNat == n
  | range first last, c => decide (first ≤ c.toNat) && decide (c.toNat ≤ last)
  | category name negated, c => name.contains ascii c != negated

/-- The characters that are the same letter as a character, in whatever case. -/
def variants (ascii : Bool) (c : Char) : List Char :=
  if ascii then [c.toLower, c.toLower.toUpper] else (caseFamily c).flatMap withLower

/-- Whether the item has a character of the same letter. A class with a name is asked for the lower
case. -/
def containsAnyCase (ascii : Bool) (item : SetItem) (c : Char) : Bool :=
  match item with
  | category name negated => name.contains ascii (if ascii then c.toLower else toLower c) != negated
  | item => (variants ascii c).any (item.contains ascii)

end SetItem

structure CharSet where
  negated : Bool := false
  ignoreCase : Bool := false
  ascii : Bool := false
  items : List SetItem
  deriving DecidableEq

def CharSet.contains (s : CharSet) (c : Char) : Bool :=
  let inside :=
    if s.ignoreCase then s.items.any (·.containsAnyCase s.ascii c)
    else s.items.any (·.contains s.ascii c)
  inside != s.negated

inductive Anchor where
  | lineStart
  | lineEnd
  | textStart
  | textEnd
  /-- The end of the text, or the place before a line feed that ends it. -/
  | lastLineEnd
  /-- The start or the end of a word, or any other place if `negated`. -/
  | wordBoundary (ascii negated : Bool)
  deriving DecidableEq

/-- Bounds of a number; without `most` there is no upper one. -/
structure Bounds where
  least : Nat
  most : Option Nat
  deriving DecidableEq

/-- How much a repetition takes: as much as it can, as little as it can, or as much as it can
without ever giving back. -/
inductive Appetite where
  | greedy
  | lazy
  | possessive
  deriving DecidableEq

end Pattern

open Pattern in
/-- A pattern. Groups are numbered from one on. -/
inductive Pattern where
  | empty
  | set (s : CharSet)
  | anchor (a : Anchor)
  | cat (first second : Pattern)
  | alt (first second : Pattern)
  | repetition (body : Pattern) (times : Bounds) (appetite : Appetite)
  /-- The first way in which the body matches, and no other. -/
  | atomic (body : Pattern)
  /-- The body matches from a place as far back as `distance` says, or does not if `negated`. -/
  | look (distance : Bounds) (body : Pattern) (negated : Bool)
  | group (number : Nat) (body : Pattern)
  | reference (number : Nat) (ignoreCase ascii : Bool)
  | choice (number : Nat) (present absent : Pattern)
  deriving DecidableEq

end SourceReport
