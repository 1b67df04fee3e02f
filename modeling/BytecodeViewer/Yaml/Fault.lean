import BytecodeViewer.Text.Numeral

/-!
# Faults of YAML documents

A document may be malformed, or a value in it may be written well and still
denote nothing, such as a date that does not exist.
-/

namespace BytecodeViewer

namespace Yaml

/-- Why a written value denotes nothing. -/
inductive ValueFault where
  | numeral (why : Text.BadNumeral)
  | emptyNumeral
  | real (text : String)
  | flag (text : String)
  | noDate
  | year (n : Nat)
  | month
  | day
  | hour
  | minute
  | second
  /-- A time zone is a day or more away; days and seconds of its offset are given. -/
  | offset (days : Int) (seconds : Nat)
  /-- An escape stands for a number that is no character. -/
  | noCharacter (code : Nat)
  /-- A number in groups of sixty is beyond all binary numbers. -/
  | tooLarge
  /-- A date is a mapping, which has the text of its default key. -/
  | noDateText
  /-- A mapping is its own value under the default key. -/
  | endless
  deriving DecidableEq

namespace ValueFault

def kind : ValueFault → String
  | emptyNumeral => "IndexError"
  | flag _ => "KeyError"
  | noDate => "AttributeError"
  | noCharacter code => if code < 0x80000000 then "ValueError" else "OverflowError"
  | tooLarge => "OverflowError"
  | noDateText => "TypeError"
  | endless => "RecursionError"
  | _ => "ValueError"

def durationText (days : Int) (seconds : Nat) : String :=
  let parts := ["days=" ++ toString days] ++
    if seconds = 0 then [] else ["seconds=" ++ toString seconds]
  "datetime.timedelta(" ++ String.intercalate ", " parts ++ ")"

def message : ValueFault → String
  | numeral why => why.message
  | emptyNumeral => "string index out of range"
  | real text => "could not convert string to float: " ++ Text.quoted text
  | flag text => Text.quoted text
  | noDate => "'NoneType' object has no attribute 'groupdict'"
  | year n => "year " ++ toString n ++ " is out of range"
  | month => "month must be in 1..12"
  | day => "day is out of range for month"
  | hour => "hour must be in 0..23"
  | minute => "minute must be in 0..59"
  | second => "second must be in 0..59"
  | offset days seconds =>
    "offset must be a timedelta strictly between -timedelta(hours=24) and timedelta(hours=24), not "
      ++ durationText days seconds ++ "."
  | noCharacter code =>
    if code < 0x80000000 then "chr() arg not in range(0x110000)"
    else "Python int too large to convert to C int"
  | tooLarge => "int too large to convert to float"
  | noDateText => "expected string or bytes-like object, got 'list'"
  | endless => "maximum recursion depth exceeded"

end ValueFault

inductive Fault where
  | malformed
  | value (why : ValueFault)
  deriving DecidableEq

end Yaml

end BytecodeViewer
