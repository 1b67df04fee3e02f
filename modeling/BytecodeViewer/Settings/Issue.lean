/-!
# Issues with settings

A value that a setting does not accept is told with the setting it was given for,
and with its index if it stands in a list.
-/

namespace BytecodeViewer

/-- Why a value is not accepted. -/
inductive IssueCause where
  | notText
  | notUnicode
  | empty
  | notList
  | notInteger
  | notNumeral
  | fraction
  | tooLarge
  | notFinite
  | below (least : Int)
  | above (greatest : Int)
  | notFlag
  | notFlagValue
  | notPath
  | refused (why : String)
  deriving DecidableEq, Repr

namespace IssueCause

def label : IssueCause → String
  | notText => "string_type"
  | notUnicode => "string_unicode"
  | empty => "string_too_short"
  | notList => "list_type"
  | notInteger => "int_type"
  | notNumeral => "int_parsing"
  | fraction => "int_from_float"
  | tooLarge => "int_parsing_size"
  | notFinite => "finite_number"
  | below _ => "greater_than_equal"
  | above _ => "less_than_equal"
  | notFlag => "bool_type"
  | notFlagValue => "bool_parsing"
  | notPath => "path_type"
  | refused _ => "value_error"

def message : IssueCause → String
  | notText => "Input should be a valid string"
  | notUnicode =>
    "Input should be a valid string, unable to parse raw data as a unicode string"
  | empty => "String should have at least 1 character"
  | notList => "Input should be a valid list"
  | notInteger => "Input should be a valid integer"
  | notNumeral => "Input should be a valid integer, unable to parse string as an integer"
  | fraction => "Input should be a valid integer, got a number with a fractional part"
  | tooLarge => "Unable to parse input string as an integer, exceeded maximum size"
  | notFinite => "Input should be a finite number"
  | below least => "Input should be greater than or equal to " ++ toString least
  | above greatest => "Input should be less than or equal to " ++ toString greatest
  | notFlag => "Input should be a valid boolean"
  | notFlagValue => "Input should be a valid boolean, unable to interpret input"
  | notPath => "Input is not a valid path for <class 'pathlib.Path'>"
  | refused why => "Value error, " ++ why

end IssueCause

structure Issue where
  field : String
  index : Option Nat := none
  cause : IssueCause
  deriving DecidableEq, Repr

end BytecodeViewer
