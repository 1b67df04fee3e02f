import BytecodeViewer.Text.Numeral

/-!
# Faults of written patterns

Why a text is no pattern, where that is noticed, and how it is told.  A place
is counted in characters; in a pattern of several lines it is told as line and
column too.
-/

namespace BytecodeViewer

namespace Pattern

/-- Why a pattern was refused. -/
inductive Cause where
  | escapeAtEnd
  | incompleteEscape (written : String)
  | badEscape (written : String)
  | octalTooLarge (written : String)
  | missing (what : String)
  | unterminatedName (closing : String)
  | unknownCharacterName (name : String)
  | openGroup
  | groupInLookBehind
  | noSuchGroup (index : Nat)
  | badGroupNumber
  | unknownGroupName (name : String)
  | badGroupName (name : String)
  | groupNameTaken (name : String) (index earlier : Nat)
  | unterminatedSet
  | badRange (first last : String)
  | repeatBounds
  | nothingToRepeat
  | multipleRepeat
  | unexpectedEnd
  | unknownExtension (written : String)
  | unterminatedComment
  | unterminatedGroup
  | unbalancedParenthesis
  | tooManyBranches
  | lateOptions
  | localeOption
  | conflictingOptions
  | unknownOption
  | fixedOption
  | globalOptionOn
  | globalOptionOff
  | optionOnAndOff
  | lookBehindWidth
  | lookBehindFar
  | templateRepeat (greedWord : String)
  /-- Both the ASCII and the Unicode option are set. -/
  | clashingAlphabets
  | repeatTooLarge
  | badCount (why : Text.BadNumeral)
  deriving DecidableEq

def Cause.message : Cause → String
  | escapeAtEnd => "bad escape (end of pattern)"
  | incompleteEscape written => "incomplete escape " ++ written
  | badEscape written => "bad escape " ++ written
  | octalTooLarge written => "octal escape value " ++ written ++ " outside of range 0-0o377"
  | missing what => "missing " ++ what
  | unterminatedName closing => "missing " ++ closing ++ ", unterminated name"
  | unknownCharacterName name => "undefined character name " ++ Text.quoted name
  | openGroup => "cannot refer to an open group"
  | groupInLookBehind => "cannot refer to group defined in the same lookbehind subpattern"
  | noSuchGroup index => "invalid group reference " ++ toString index
  | badGroupNumber => "bad group number"
  | unknownGroupName name => "unknown group name " ++ Text.quoted name
  | badGroupName name => "bad character in group name " ++ Text.quoted name
  | groupNameTaken name index earlier =>
    "redefinition of group name " ++ Text.quoted name ++ " as group " ++ toString index ++
      "; was group " ++ toString earlier
  | unterminatedSet => "unterminated character set"
  | badRange first last => "bad character range " ++ first ++ "-" ++ last
  | repeatBounds => "min repeat greater than max repeat"
  | nothingToRepeat => "nothing to repeat"
  | multipleRepeat => "multiple repeat"
  | unexpectedEnd => "unexpected end of pattern"
  | unknownExtension written => "unknown extension ?" ++ written
  | unterminatedComment => "missing ), unterminated comment"
  | unterminatedGroup => "missing ), unterminated subpattern"
  | unbalancedParenthesis => "unbalanced parenthesis"
  | tooManyBranches => "conditional backref with more than two branches"
  | lateOptions => "global flags not at the start of the expression"
  | localeOption => "bad inline flags: cannot use 'L' flag with a str pattern"
  | conflictingOptions => "bad inline flags: flags 'a', 'u' and 'L' are incompatible"
  | unknownOption => "unknown flag"
  | fixedOption => "bad inline flags: cannot turn off flags 'a', 'u' and 'L'"
  | globalOptionOn => "bad inline flags: cannot turn on global flag"
  | globalOptionOff => "bad inline flags: cannot turn off global flag"
  | optionOnAndOff => "bad inline flags: flag turned on and off"
  | lookBehindWidth => "look-behind requires fixed-width pattern"
  | lookBehindFar => "looks too much behind"
  | templateRepeat greedWord => "internal: unsupported template operator " ++ greedWord
  | clashingAlphabets => "ASCII and UNICODE flags are incompatible"
  | repeatTooLarge => "the repetition number is too large"
  | badCount why => why.message

def Cause.kind : Cause → String
  | clashingAlphabets | badCount _ => "ValueError"
  | repeatTooLarge => "OverflowError"
  | _ => "error"

/-- A cause, with the place where it was noticed if it has one. -/
structure Fault where
  cause : Cause
  place : Option Nat := none
  deriving DecidableEq

def lineAndColumn (source : List Char) (place : Nat) : Nat × Nat :=
  let before := source.take place
  ((before.filter (· == '\n')).length + 1, (before.reverse.takeWhile (· != '\n')).length + 1)

def Fault.message (source : String) (f : Fault) : String :=
  match f.place with
  | none => f.cause.message
  | some place =>
    let told := f.cause.message ++ " at position " ++ toString place
    if source.toList.contains '\n' then
      let (line, column) := lineAndColumn source.toList place
      told ++ " (line " ++ toString line ++ ", column " ++ toString column ++ ")"
    else told

end Pattern

end BytecodeViewer
