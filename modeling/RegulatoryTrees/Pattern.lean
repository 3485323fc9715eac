import RegulatoryTrees.Text.Case
import RegulatoryTrees.Text.Letters

/-!
# Patterns

The form of text patterns: what a single character must be, and how such tests are put together. Everything that depends on
a mode of the pattern (case, lines, scripts) is settled in the form itself.
-/

namespace RegulatoryTrees

/-- How characters are compared: as they are, or by their lowercase, of all scripts or of ASCII letters only. -/
inductive CaseFold where
  | exact
  | ascii
  | unicode
  deriving DecidableEq

/-- A class of characters with a letter of its own in patterns. -/
inductive CharacterClass where
  | digit
  | space
  | word
  deriving DecidableEq

/-- A part of a character set; code points are numbers, since a pattern can name ones that no text holds. -/
inductive SetItem where
  | point (code : Nat)
  | range (first last : Nat)
  /-- The lowercase of a character of the range, or a letter alike to it. -/
  | lowerOfRange (first last : Nat) (fold : CaseFold)
  /-- A character of the range, or one whose uppercase is. -/
  | rangeOrUpper (first last : Nat)
  /-- A character of the class, or with `outside` one that is not. -/
  | ofClass (kind : CharacterClass) (ascii outside : Bool)
  deriving DecidableEq

/-- What a single character must be. -/
inductive CharTest where
  | any
  | anyButNewline
  /-- The character, folded, is in one of the items, or with `negated` in none. -/
  | oneOf (fold : CaseFold) (negated : Bool) (items : List SetItem)
  deriving DecidableEq

/-- A condition on a place between characters. -/
inductive Anchor where
  | textStart
  | textEnd
  /-- The end of the text or the place before a newline that ends it. -/
  | lastLineEnd
  | lineStart
  | lineEnd
  /-- A word begins or ends here, or with `negated` none does. -/
  | wordEdge (ascii negated : Bool)
  deriving DecidableEq

/-- How a repetition chooses its number of rounds: as many as can be with fewer as a way out, as few as can be with more as a
way out, or as many as can be for good. -/
inductive Repetition where
  | greedy
  | lazy
  | possessive
  deriving DecidableEq

/-- A pattern. -/
inductive Pattern where
  | empty
  | char (test : CharTest)
  | sequence (first second : Pattern)
  | either (first second : Pattern)
  | repeated (mode : Repetition) (least : Nat) (most : Option Nat) (body : Pattern)
  | group (index : Nat) (body : Pattern)
  | sameAs (group : Nat) (fold : CaseFold)
  | ifGroup (group : Nat) (present absent : Pattern)
  | ahead (negated : Bool) (body : Pattern)
  /-- The body must match a text that ends here; its length lies between the two bounds, which a usable pattern has equal. -/
  | behind (negated : Bool) (shortest longest : Nat) (body : Pattern)
  | atomic (body : Pattern)
  | anchor (kind : Anchor)
  deriving DecidableEq

namespace Pattern

/-- One pattern after the other. -/
def ofSequence : List Pattern → Pattern
  | [] => .empty
  | [p] => p
  | p :: rest => .sequence p (ofSequence rest)

/-- The first of the patterns that leads to a match. -/
def ofAlternatives : List Pattern → Pattern
  | [] => .empty
  | [p] => p
  | p :: rest => .either p (ofAlternatives rest)

end Pattern

end RegulatoryTrees
