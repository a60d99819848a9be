import SourceReport.Pattern
import SourceReport.Text.Decimal
import SourceReport.Text.Quoted

namespace SourceReport.Pattern
open Text

inductive FlagCause where
  | unknown
  | unfinished
  | nothingTurnedOff
  | noColon
  | locale
  | incompatible
  | globalTurnedOn
  | globalTurnedOff
  | typeTurnedOff
  | turnedOnAndOff
  deriving DecidableEq

def FlagCause.message : FlagCause → List Char
  | unknown => "unknown flag".toList
  | unfinished => "missing -, : or )".toList
  | nothingTurnedOff => "missing flag".toList
  | noColon => "missing :".toList
  | locale => "bad inline flags: cannot use 'L' flag with a str pattern".toList
  | incompatible => "bad inline flags: flags 'a', 'u' and 'L' are incompatible".toList
  | globalTurnedOn => "bad inline flags: cannot turn on global flag".toList
  | globalTurnedOff => "bad inline flags: cannot turn off global flag".toList
  | typeTurnedOff => "bad inline flags: cannot turn off flags 'a', 'u' and 'L'".toList
  | turnedOnAndOff => "bad inline flags: flag turned on and off".toList

inductive GroupCause where
  | missingName
  | unfinishedName (stop : Char)
  | badName (name : List Char)
  | unknownName (name : List Char)
  | takenName (name : List Char) (number taken : Nat)
  | stillOpen
  | sameLookBehind
  | zero
  | unknownNumber (number : Nat)
  | moreThanTwoBranches
  deriving DecidableEq

def GroupCause.message : GroupCause → List Char
  | missingName => "missing group name".toList
  | unfinishedName stop => "missing ".toList ++ stop :: ", unterminated name".toList
  | badName name => "bad character in group name ".toList ++ quoted name
  | unknownName name => "unknown group name ".toList ++ quoted name
  | takenName name number taken =>
    "redefinition of group name ".toList ++ quoted name ++ " as group ".toList ++ decimal number ++
      "; was group ".toList ++ decimal taken
  | stillOpen => "cannot refer to an open group".toList
  | sameLookBehind => "cannot refer to group defined in the same lookbehind subpattern".toList
  | zero => "bad group number".toList
  | unknownNumber number => "invalid group reference ".toList ++ decimal number
  | moreThanTwoBranches => "conditional backref with more than two branches".toList

inductive Cause where
  | unterminatedGroup
  | unterminatedSet
  | unterminatedComment
  | unbalanced
  | nothingToRepeat
  | multipleRepeat
  | repeatBounds
  | danglingEscape
  | badEscape (written : List Char)
  | incompleteEscape (written : List Char)
  | octalRange (written : List Char)
  | noCharacterName
  | missingCharacterName
  | unfinishedCharacterName
  | unknownCharacter (name : List Char)
  | badRange (first last : List Char)
  | unexpectedEnd
  | unknownExtension (written : List Char)
  | lateFlags
  | flags (cause : FlagCause)
  | group (cause : GroupCause)
  | variableLookBehind
  | farLookBehind
  | refusedRepetition (appetite : Appetite)
  | countTooLarge
  | contradictoryFlags
  deriving DecidableEq

def Appetite.name : Appetite → List Char
  | greedy => "MAX_REPEAT".toList
  | lazy => "MIN_REPEAT".toList
  | possessive => "POSSESSIVE_REPEAT".toList

def Cause.message : Cause → List Char
  | unterminatedGroup => "missing ), unterminated subpattern".toList
  | unterminatedSet => "unterminated character set".toList
  | unterminatedComment => "missing ), unterminated comment".toList
  | unbalanced => "unbalanced parenthesis".toList
  | nothingToRepeat => "nothing to repeat".toList
  | multipleRepeat => "multiple repeat".toList
  | repeatBounds => "min repeat greater than max repeat".toList
  | danglingEscape => "bad escape (end of pattern)".toList
  | badEscape written => "bad escape ".toList ++ written
  | incompleteEscape written => "incomplete escape ".toList ++ written
  | octalRange written =>
    "octal escape value ".toList ++ written ++ " outside of range 0-0o377".toList
  | noCharacterName => "missing \x7b".toList
  | missingCharacterName => "missing character name".toList
  | unfinishedCharacterName => "missing \x7d, unterminated name".toList
  | unknownCharacter name => "undefined character name ".toList ++ quoted name
  | badRange first last => "bad character range ".toList ++ first ++ '-' :: last
  | unexpectedEnd => "unexpected end of pattern".toList
  | unknownExtension written => "unknown extension ?".toList ++ written
  | lateFlags => "global flags not at the start of the expression".toList
  | flags cause => cause.message
  | group cause => cause.message
  | variableLookBehind => "look-behind requires fixed-width pattern".toList
  | farLookBehind => "looks too much behind".toList
  | refusedRepetition appetite =>
    "internal: unsupported template operator ".toList ++ appetite.name
  | countTooLarge => "the repetition number is too large".toList
  | contradictoryFlags => "ASCII and UNICODE flags are incompatible".toList

/-- Whether a pattern is well written but asks for what cannot be. -/
def Cause.isBeyond : Cause → Bool
  | countTooLarge | contradictoryFlags => true
  | _ => false

structure Error where
  cause : Cause
  position : Option Nat := none
  deriving DecidableEq

/-- The message of an error in a pattern; line and column are named if there are several lines. -/
def Error.message (e : Error) (pattern : List Char) : List Char :=
  match e.position with
  | none => e.cause.message
  | some position =>
    let passed := pattern.take position
    let column := (passed.reverse.takeWhile (· != '\n')).length + 1
    e.cause.message ++ " at position ".toList ++ decimal position ++
      if pattern.contains '\n' then
        " (line ".toList ++ decimal (passed.count '\n' + 1) ++ ", column ".toList ++
          decimal column ++ [')']
      else []

end SourceReport.Pattern
