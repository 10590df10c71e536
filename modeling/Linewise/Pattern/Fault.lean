/-
What can be wrong with the text of a pattern, and how it is reported.

A `Cause` says what is wrong; a `Fault` adds the place. `Fault.message` is the only source of the wording.
-/
import Linewise.Text.Digit
import Linewise.Text.Quoted

namespace Linewise.Pattern

/-- what is wrong with the text of a pattern -/
inductive Cause where
  /-- the text ends in a backslash that escapes nothing -/
  | danglingBackslash
  | badEscape (escape : Text)
  | incompleteEscape (escape : Text)
  | octalTooLarge (escape : Text)
  | missing (what : Text)
  | unterminatedName (closer : Char)
  | undefinedCharacterName (name : Text)
  | badGroupName (name : Text)
  | unknownGroupName (name : Text)
  | groupRedefined (name : Text) (index former : Nat)
  | badGroupNumber
  | invalidGroup (index : Nat)
  | openGroup
  | groupOfSameLook
  | unterminatedSet
  | badRange (first last : Text)
  | nothingToRepeat
  | multipleRepeat
  | leastAboveMost
  | repetitionTooLarge
  | repetitionTooLong (digits : Nat)
  | incompatibleFlags
  | unexpectedEnd
  | unknownExtension (introducer : Text)
  | unterminatedComment
  | unterminatedGroup
  | unbalancedParenthesis
  | tooManyBranches
  | lateGlobalFlags
  | unknownFlag
  | badFlags (why : Text)
  | farLookBehind
  | looseLookBehind
  /-- a repetition of a template, which can have none -/
  | templateRepetition (kind : Text)
deriving DecidableEq, Repr, Inhabited

/-- the wording of a cause -/
def Cause.message : Cause → Text
  | .danglingBackslash => "bad escape (end of pattern)"
  | .badEscape e => "bad escape " ++ e
  | .incompleteEscape e => "incomplete escape " ++ e
  | .octalTooLarge e => "octal escape value " ++ e ++ " outside of range 0-0o377"
  | .missing what => "missing " ++ what
  | .unterminatedName closer => "missing " ++ closer :: ", unterminated name".toList
  | .undefinedCharacterName name => "undefined character name " ++ name.quoted
  | .badGroupName name => "bad character in group name " ++ name.quoted
  | .unknownGroupName name => "unknown group name " ++ name.quoted
  | .groupRedefined name index former =>
    "redefinition of group name " ++ name.quoted ++ " as group " ++ Text.ofNat index ++ "; was group " ++
      Text.ofNat former
  | .badGroupNumber => "bad group number"
  | .invalidGroup index => "invalid group reference " ++ Text.ofNat index
  | .openGroup => "cannot refer to an open group"
  | .groupOfSameLook => "cannot refer to group defined in the same lookbehind subpattern"
  | .unterminatedSet => "unterminated character set"
  | .badRange first last => "bad character range " ++ first ++ "-" ++ last
  | .nothingToRepeat => "nothing to repeat"
  | .multipleRepeat => "multiple repeat"
  | .leastAboveMost => "min repeat greater than max repeat"
  | .repetitionTooLarge => "the repetition number is too large"
  | .repetitionTooLong digits =>
    "Exceeds the limit (" ++ Text.ofNat maxDigits ++ " digits) for integer string conversion: value has " ++
      Text.ofNat digits ++ " digits; use sys.set_int_max_str_digits() to increase the limit"
  | .incompatibleFlags => "ASCII and UNICODE flags are incompatible"
  | .unexpectedEnd => "unexpected end of pattern"
  | .unknownExtension introducer => "unknown extension " ++ introducer
  | .unterminatedComment => "missing ), unterminated comment"
  | .unterminatedGroup => "missing ), unterminated subpattern"
  | .unbalancedParenthesis => "unbalanced parenthesis"
  | .tooManyBranches => "conditional backref with more than two branches"
  | .lateGlobalFlags => "global flags not at the start of the expression"
  | .unknownFlag => "unknown flag"
  | .badFlags why => "bad inline flags: " ++ why
  | .farLookBehind => "looks too much behind"
  | .looseLookBehind => "look-behind requires fixed-width pattern"
  | .templateRepetition kind => "internal: unsupported template operator " ++ kind

/-- the text is not written as a pattern is; else it is, but asks for more than patterns can do -/
def Cause.isMistake : Cause → Bool
  | .repetitionTooLarge => false
  | .repetitionTooLong _ => false
  | .incompatibleFlags => false
  | _ => true

/-- a cause, with the pattern it was found in and the offset there, if it has one -/
structure Fault where
  cause : Cause
  pattern : Text
  offset : Option Nat
deriving DecidableEq, Repr, Inhabited

namespace Fault

/-- the line of an offset, counted from 1 -/
def line (pattern : Text) (offset : Nat) : Nat := (pattern.take offset).count '\n' + 1

/-- the column of an offset, counted from 1 -/
def column (pattern : Text) (offset : Nat) : Nat :=
  ((pattern.take offset).reverse.takeWhile (· != '\n')).length + 1

/-- the full report; line and column are given for patterns of several lines -/
def message (f : Fault) : Text :=
  match f.offset with
  | none => f.cause.message
  | some n =>
    f.cause.message ++ " at position " ++ Text.ofNat n ++
      if f.pattern.contains '\n' then
        " (line " ++ Text.ofNat (line f.pattern n) ++ ", column " ++ Text.ofNat (column f.pattern n) ++ ")"
      else []

end Fault

end Linewise.Pattern
