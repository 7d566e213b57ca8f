import MailScript.Text.Quoted
import MailScript.Text.Digit

/-! # Malformed patterns -/

namespace MailScript.Pattern

/-- Why a text is no pattern. -/
inductive Reason where
  | nothingToRepeat
  | multipleRepeat
  | boundsReversed
  | unterminatedGroup
  | unbalancedParenthesis
  | unterminatedSet
  | unterminatedComment
  | unexpectedEnd
  | missingName (what : String)
  | unterminatedName (terminator : Char)
  | badGroupName (name : String)
  | badGroupNumber
  | redefinedGroup (name : String) (group earlier : Nat)
  | unknownGroup (name : String)
  | invalidReference (group : Nat)
  | openGroup
  | lookbehindGroup
  | unknownExtension (text : String)
  | tooManyBranches
  | badRange (low high : String)
  | badEscape (text : String)
  | escapeAtEnd
  | incompleteEscape (text : String)
  | octalTooLarge (text : String)
  | missingBrace
  | unknownCharacterName (name : String)
  | flagsNotFirst
  | incompatibleFlags
  | localeFlag
  | missingFlag
  | unknownFlag
  | missingFlagsEnd
  | missingColon
  | globalFlagOn
  | globalFlagOff
  | alphabetFlagOff
  | flagOnAndOff
  | lookbehindWidth
  | lookbehindTooFar
  | templateOperator (name : String)
deriving DecidableEq, Repr

def Reason.message : Reason → String
  | .nothingToRepeat => "nothing to repeat"
  | .multipleRepeat => "multiple repeat"
  | .boundsReversed => "min repeat greater than max repeat"
  | .unterminatedGroup => "missing ), unterminated subpattern"
  | .unbalancedParenthesis => "unbalanced parenthesis"
  | .unterminatedSet => "unterminated character set"
  | .unterminatedComment => "missing ), unterminated comment"
  | .unexpectedEnd => "unexpected end of pattern"
  | .missingName what => "missing " ++ what
  | .unterminatedName terminator =>
    "missing " ++ String.singleton terminator ++ ", unterminated name"
  | .badGroupName name => "bad character in group name " ++ Text.quoted name
  | .badGroupNumber => "bad group number"
  | .redefinedGroup name group earlier =>
    "redefinition of group name " ++ Text.quoted name ++ " as group " ++ toString group
      ++ "; was group " ++ toString earlier
  | .unknownGroup name => "unknown group name " ++ Text.quoted name
  | .invalidReference group => "invalid group reference " ++ toString group
  | .openGroup => "cannot refer to an open group"
  | .lookbehindGroup => "cannot refer to group defined in the same lookbehind subpattern"
  | .unknownExtension text => "unknown extension ?" ++ text
  | .tooManyBranches => "conditional backref with more than two branches"
  | .badRange low high => "bad character range " ++ low ++ "-" ++ high
  | .badEscape text => "bad escape " ++ text
  | .escapeAtEnd => "bad escape (end of pattern)"
  | .incompleteEscape text => "incomplete escape " ++ text
  | .octalTooLarge text => "octal escape value " ++ text ++ " outside of range 0-0o377"
  | .missingBrace => "missing \x7b"
  | .unknownCharacterName name => "undefined character name " ++ Text.quoted name
  | .flagsNotFirst => "global flags not at the start of the expression"
  | .incompatibleFlags => "bad inline flags: flags 'a', 'u' and 'L' are incompatible"
  | .localeFlag => "bad inline flags: cannot use 'L' flag with a str pattern"
  | .missingFlag => "missing flag"
  | .unknownFlag => "unknown flag"
  | .missingFlagsEnd => "missing -, : or )"
  | .missingColon => "missing :"
  | .globalFlagOn => "bad inline flags: cannot turn on global flag"
  | .globalFlagOff => "bad inline flags: cannot turn off global flag"
  | .alphabetFlagOff => "bad inline flags: cannot turn off flags 'a', 'u' and 'L'"
  | .flagOnAndOff => "bad inline flags: flag turned on and off"
  | .lookbehindWidth => "look-behind requires fixed-width pattern"
  | .lookbehindTooFar => "looks too much behind"
  | .templateOperator name => "internal: unsupported template operator " ++ name

/-- What is wrong with a text that is no pattern. -/
inductive Error where
  /-- The text breaks the notation, if known at a position counted in characters. -/
  | malformed (reason : Reason) (position : Option Nat)
  /-- A number of repetitions that no repetition can have. -/
  | repetitionTooLarge
  /-- A character number that does not fit a machine integer. -/
  | codeTooLarge
  /-- The flags for ASCII and for all alphabets are both set. -/
  | alphabetsBothSet
  /-- A number of repetitions with more digits than are read as one number. -/
  | tooManyDigits (count : Nat)
deriving DecidableEq, Repr

/-- The line and the column of a position in a text of several lines. -/
def lineAndColumn (text : List Char) (position : Nat) : Nat × Nat :=
  let before := text.take position
  (before.count '\n' + 1, (before.reverse.takeWhile fun c => c ≠ '\n').length + 1)

def digitLimitMessage (count : Nat) : String :=
  "Exceeds the limit (" ++ toString Text.digitLimit
    ++ " digits) for integer string conversion: value has " ++ toString count
    ++ " digits; use sys.set_int_max_str_digits() to increase the limit"

def Error.message (text : String) : Error → String
  | .malformed reason none => reason.message
  | .malformed reason (some position) =>
    let place := reason.message ++ " at position " ++ toString position
    if text.toList.contains '\n' then
      let (line, column) := lineAndColumn text.toList position
      place ++ " (line " ++ toString line ++ ", column " ++ toString column ++ ")"
    else place
  | .repetitionTooLarge => "the repetition number is too large"
  | .codeTooLarge => "Python int too large to convert to C int"
  | .alphabetsBothSet => "ASCII and UNICODE flags are incompatible"
  | .tooManyDigits count => digitLimitMessage count

end MailScript.Pattern
