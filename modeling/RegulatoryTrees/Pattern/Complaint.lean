import RegulatoryTrees.Pattern
import RegulatoryTrees.Text.Quoted
import RegulatoryTrees.Number.Decimal

/-!
# Complaints about pattern texts

Why a text is no pattern. Most complaints name the position in the text at which they arise; those about the finished pattern
as a whole have none.
-/

namespace RegulatoryTrees

namespace Pattern

/-- What is wrong with a pattern text. -/
inductive Complaint where
  | missingName (what : String)
  | unterminatedName (terminator : Char)
  | badGroupName (name : String)
  | unknownGroupName (name : String)
  | redefinedGroup (name : String) (index previous : Nat)
  | badGroupNumber
  | invalidGroup (index : Nat)
  | openGroup
  | groupOfSameLookbehind
  | incompleteEscape (text : String)
  | badEscape (text : String)
  | danglingEscape
  | octalTooLarge (text : String)
  | missingBrace
  | unknownCharacterName (name : String)
  | unterminatedSet
  | badRange (first last : String)
  | leastAboveMost
  | nothingToRepeat
  | multipleRepeat
  | unexpectedEnd
  | unknownExtension (text : String)
  | unterminatedComment
  | unterminatedGroup
  | unbalancedParenthesis
  | tooManyBranches
  | lateGlobalFlags
  | localeFlag
  | incompatibleFlags
  | unknownFlag
  | missingFlag
  | missingFlagEnd
  | missingColon
  | wholePatternFlagOn
  | wholePatternFlagOff
  | scriptFlagOff
  | flagOnAndOff
  | variableLookbehind
  | repetitionInTemplate (mode : Repetition)
  deriving DecidableEq

/-- The wording of a complaint, without its position. -/
def Complaint.wording : Complaint → String
  | .missingName what => "missing " ++ what
  | .unterminatedName terminator => "missing " ++ terminator.toString ++ ", unterminated name"
  | .badGroupName name => "bad character in group name " ++ Text.quoted name
  | .unknownGroupName name => "unknown group name " ++ Text.quoted name
  | .redefinedGroup name index previous =>
    "redefinition of group name " ++ Text.quoted name ++ " as group " ++ Decimal.ofNat index ++ "; was group " ++
      Decimal.ofNat previous
  | .badGroupNumber => "bad group number"
  | .invalidGroup index => "invalid group reference " ++ Decimal.ofNat index
  | .openGroup => "cannot refer to an open group"
  | .groupOfSameLookbehind => "cannot refer to group defined in the same lookbehind subpattern"
  | .incompleteEscape text => "incomplete escape " ++ text
  | .badEscape text => "bad escape " ++ text
  | .danglingEscape => "bad escape (end of pattern)"
  | .octalTooLarge text => "octal escape value " ++ text ++ " outside of range 0-0o377"
  | .missingBrace => "missing \x7b"
  | .unknownCharacterName name => "undefined character name " ++ Text.quoted name
  | .unterminatedSet => "unterminated character set"
  | .badRange first last => "bad character range " ++ first ++ "-" ++ last
  | .leastAboveMost => "min repeat greater than max repeat"
  | .nothingToRepeat => "nothing to repeat"
  | .multipleRepeat => "multiple repeat"
  | .unexpectedEnd => "unexpected end of pattern"
  | .unknownExtension text => "unknown extension ?" ++ text
  | .unterminatedComment => "missing ), unterminated comment"
  | .unterminatedGroup => "missing ), unterminated subpattern"
  | .unbalancedParenthesis => "unbalanced parenthesis"
  | .tooManyBranches => "conditional backref with more than two branches"
  | .lateGlobalFlags => "global flags not at the start of the expression"
  | .localeFlag => "bad inline flags: cannot use 'L' flag with a str pattern"
  | .incompatibleFlags => "bad inline flags: flags 'a', 'u' and 'L' are incompatible"
  | .unknownFlag => "unknown flag"
  | .missingFlag => "missing flag"
  | .missingFlagEnd => "missing -, : or )"
  | .missingColon => "missing :"
  | .wholePatternFlagOn => "bad inline flags: cannot turn on global flag"
  | .wholePatternFlagOff => "bad inline flags: cannot turn off global flag"
  | .scriptFlagOff => "bad inline flags: cannot turn off flags 'a', 'u' and 'L'"
  | .flagOnAndOff => "bad inline flags: flag turned on and off"
  | .variableLookbehind => "look-behind requires fixed-width pattern"
  | .repetitionInTemplate mode =>
    "internal: unsupported template operator " ++
      match mode with
      | .greedy => "MAX_REPEAT"
      | .lazy => "MIN_REPEAT"
      | .possessive => "POSSESSIVE_REPEAT"

/-- Why a text is not read as a pattern. -/
inductive Rejection where
  /-- The text is malformed, at a position if the complaint has one. -/
  | malformed (complaint : Complaint) (position : Option Nat)
  /-- A repetition asks for a number of rounds beyond the greatest one. -/
  | repetitionTooLarge
  /-- A repetition count or group number has more digits than are read. -/
  | numeralTooLong (digits : Nat)
  /-- The whole pattern is asked to follow two character sets. -/
  | conflictingScripts
  /-- What is looked back at is wider than can be handled. -/
  | lookbehindTooWide
  deriving DecidableEq

/-- A complaint in words: its position follows it and, where the text has several lines, line and column. -/
def Complaint.message (text : String) (complaint : Complaint) : Option Nat → String
  | none => complaint.wording
  | some position =>
    let cs := text.toList
    let before := cs.take position
    let line := before.count '\n' + 1
    let column := (before.reverse.takeWhile (· != '\n')).length + 1
    complaint.wording ++ " at position " ++ Decimal.ofNat position ++
      if cs.contains '\n' then
        " (line " ++ Decimal.ofNat line ++ ", column " ++ Decimal.ofNat column ++ ")"
      else ""

end Pattern

end RegulatoryTrees
