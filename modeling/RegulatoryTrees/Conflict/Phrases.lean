import RegulatoryTrees.Conflict
import RegulatoryTrees.Pattern.Matching

/-!
# Phrases of decisions and obligations

The patterns by which classifications, day counts and obligations that exclude each other are told from their wording. Case
does not matter in any of them.
-/

namespace RegulatoryTrees

namespace Phrase

/-- A character, in either case. -/
def character (c : Char) : Pattern := .char (.literal .unicode false c.toNat)

/-- A text, in either case. -/
def words (s : String) : List Pattern := s.toList.map character

/-- A blank. -/
def blank : Pattern := .char (.oneOf .exact false [.ofClass .space false false])

/-- As many of a pattern as there are, at least a number of them. -/
def many (least : Nat) (p : Pattern) : Pattern := .repeated .greedy least none p

/-- A pattern or nothing. -/
def maybe (p : Pattern) : Pattern := .repeated .greedy 0 (some 1) p

/-- The beginning or end of a word. -/
def wordEdge : Pattern := .anchor (.wordEdge false false)

/-- A text and another one with blanks between them. -/
def apart (s t : String) : Pattern := .ofSequence (words s ++ many 1 blank :: words t)

/-- The words that classify: "classified as", "is a", "is an" and "treated as". -/
def classifies : Pattern := .ofSequence [
  wordEdge,
  .group 1 (.ofAlternatives [
    .ofSequence (words "classified as"),
    .ofSequence (words "is a" ++ [maybe (character 'n')]),
    .ofSequence (words "treated as")]),
  wordEdge]

/-- A number of days; the number is the first group. -/
def dayCount : Pattern := .ofSequence (
  .group 1 (many 1 (.char (.oneOf .exact false [.ofClass .digit false false]))) :: many 0 blank ::
    words "day" ++ [maybe (character 's'), wordEdge])

/-- A pause before a trade: "cooling off", written in one of several ways. -/
def coolingOff : Pattern := .ofSequence (
  words "cooling" ++
    many 1 (.char (.oneOf .exact false [.ofClass .space false false, .point '-'.toNat])) :: words "off")

/-- The duty to publish or submit a white paper. -/
def whitePaper : Pattern := .ofSequence (
  .group 1 (.ofAlternatives [.ofSequence (words "publish"), .ofSequence (words "submit")]) ::
    many 1 blank ::
    maybe (.group 2 (.ofSequence [character 'a', many 1 blank])) ::
    maybe (.group 3 (.ofSequence (words "crypto-asset" ++ [many 1 blank]))) ::
    words "white" ++ many 0 blank :: words "paper")

end Phrase

/-- Two ways to word obligations that cannot both be satisfied. -/
structure Opposition where
  first : Pattern
  second : Pattern
  severity : Severity
  description : String
  kind : ConflictKind := .obligation
  deriving DecidableEq

namespace Opposition

/-- One text is worded in the first way and the other in the second, either way round. -/
def between (o : Opposition) (s t : String) : Bool :=
  (o.first.occursIn s && o.second.occursIn t) || (o.second.occursIn s && o.first.occursIn t)

/-- The oppositions that are known. -/
def known : List Opposition := [
  { first := Phrase.apart "retail" "prohibition", second := Phrase.apart "retail" "allowed", severity := .blocking,
    description := "Retail investor eligibility conflict" },
  { first := Phrase.apart "must" "register", second := Phrase.apart "registration" "exempt", severity := .warning,
    description := "Registration requirement conflict" },
  { first := Phrase.coolingOff, second := Phrase.apart "immediate" "execution", severity := .warning,
    description := "Cooling-off period conflicts with immediate execution" },
  { first := Phrase.whitePaper, second := Phrase.apart "no" "disclosure", severity := .warning,
    description := "Whitepaper requirement conflicts with minimal disclosure regime" }]

end Opposition

end RegulatoryTrees
