import RaceAlbum.Json.Value

/-!
# Problems of a value

What is wrong with a value that ought to have a certain form: a list of problems, each with the place where it lies
and its cause. A cause has a kind, by which programs tell causes apart, and a message for people.
-/

namespace RaceAlbum

/-- One step into a value: to the member of a name or to the item of an index. -/
inductive PathStep where
  | member (name : String)
  | index (n : Int)
deriving DecidableEq

/-- A place inside a value. -/
abbrev Path := List PathStep

namespace PathStep

/-- The step as text. -/
def text : PathStep → String
  | member name => name
  | index n => intText n

/-- The step as a value. -/
def value : PathStep → Value
  | member name => .text name
  | index n => .int n

end PathStep

/-- Why a value does not have the form that it ought to have. -/
inductive Complaint where
  | missing
  | notText
  | textBroken
  | textTooShort (least : Nat)
  | textTooLong (most : Nat)
  | patternMismatch (pattern : String)
  | notAMember (members : List String)
  | notALiteral (members : List String)
  | notAnInteger
  | integerWithFraction
  | integerUnreadable
  | integerTooLong
  | notFinite
  | notANumber
  | numberUnreadable
  | below (least : Int)
  | above (most : Int)
  | notABoolean
  | booleanUnreadable
  | notAList
  | notADictionary
  | notAnObject (model : String)
  | notAnIdentifier
  | identifierUnreadable (fault : UuidFault)
  | notADate
  | dateUnreadable (fault : CalendarFault)
  | dateYearZero
  | dateWithTime
  | notAStamp
  | stampUnreadable (fault : CalendarFault)
  | stampOutOfRange (fault : CalendarFault)
  | rule (text : String)
  | notJson (position : Nat)
deriving DecidableEq

/-- Quoted names in a row, the last two joined by `or`. -/
def joinNames : List String → String
  | [] => ""
  | [a] => "'" ++ a ++ "'"
  | [a, b] => "'" ++ a ++ "' or '" ++ b ++ "'"
  | a :: rest => "'" ++ a ++ "', " ++ joinNames rest

/-- How many characters, in words. -/
def countCharacters (n : Nat) : String := if n = 1 then "1 character" else natText n ++ " characters"

/-- Where a value comes from decides how the lack of an object is told. -/
inductive Source where
  | value
  | request
deriving DecidableEq

namespace Complaint

/-- The kind of a cause. -/
def kind (source : Source) : Complaint → String
  | missing => "missing"
  | notText => "string_type"
  | textBroken => "string_unicode"
  | textTooShort _ => "string_too_short"
  | textTooLong _ => "string_too_long"
  | patternMismatch _ => "string_pattern_mismatch"
  | notAMember _ => "enum"
  | notALiteral _ => "literal_error"
  | notAnInteger => "int_type"
  | integerWithFraction => "int_from_float"
  | integerUnreadable => "int_parsing"
  | integerTooLong => "int_parsing_size"
  | notFinite => "finite_number"
  | notANumber => "float_type"
  | numberUnreadable => "float_parsing"
  | below _ => "greater_than_equal"
  | above _ => "less_than_equal"
  | notABoolean => "bool_type"
  | booleanUnreadable => "bool_parsing"
  | notAList => "list_type"
  | notADictionary => "dict_type"
  | notAnObject _ => match source with
    | .value => "model_type"
    | .request => "model_attributes_type"
  | notAnIdentifier => "uuid_type"
  | identifierUnreadable _ => "uuid_parsing"
  | notADate => "date_type"
  | dateUnreadable _ => "date_from_datetime_parsing"
  | dateYearZero => "date_parsing"
  | dateWithTime => "date_from_datetime_inexact"
  | notAStamp => "datetime_type"
  | stampUnreadable _ => "datetime_from_date_parsing"
  | stampOutOfRange _ => "datetime_parsing"
  | rule _ => "value_error"
  | notJson _ => "json_invalid"

/-- The message of a cause. -/
def message (source : Source) : Complaint → String
  | missing => "Field required"
  | notText => "Input should be a valid string"
  | textBroken => "Input should be a valid string, unable to parse raw data as a unicode string"
  | textTooShort n => "String should have at least " ++ countCharacters n
  | textTooLong n => "String should have at most " ++ countCharacters n
  | patternMismatch p => "String should match pattern '" ++ p ++ "'"
  | notAMember names => "Input should be " ++ joinNames names
  | notALiteral names => "Input should be " ++ joinNames names
  | notAnInteger => "Input should be a valid integer"
  | integerWithFraction => "Input should be a valid integer, got a number with a fractional part"
  | integerUnreadable => "Input should be a valid integer, unable to parse string as an integer"
  | integerTooLong => "Unable to parse input string as an integer, exceeded maximum size"
  | notFinite => "Input should be a finite number"
  | notANumber => "Input should be a valid number"
  | numberUnreadable => "Input should be a valid number, unable to parse string as a number"
  | below n => "Input should be greater than or equal to " ++ intText n
  | above n => "Input should be less than or equal to " ++ intText n
  | notABoolean => "Input should be a valid boolean"
  | booleanUnreadable => "Input should be a valid boolean, unable to interpret input"
  | notAList => "Input should be a valid list"
  | notADictionary => "Input should be a valid dictionary"
  | notAnObject model => match source with
    | .value => "Input should be a valid dictionary or instance of " ++ model
    | .request => "Input should be a valid dictionary or object to extract fields from"
  | notAnIdentifier => "UUID input should be a string, bytes or UUID object"
  | identifierUnreadable fault => "Input should be a valid UUID, " ++ fault.text
  | notADate => "Input should be a valid date"
  | dateUnreadable fault => "Input should be a valid date or datetime, " ++ fault.text
  | dateYearZero => "Input should be a valid date in the format YYYY-MM-DD, year 0 is out of range"
  | dateWithTime => "Datetimes provided to dates should have zero time - e.g. be exact dates"
  | notAStamp => "Input should be a valid datetime"
  | stampUnreadable fault => "Input should be a valid datetime or date, " ++ fault.text
  | stampOutOfRange fault => "Input should be a valid datetime, " ++ fault.text
  | rule text => "Value error, " ++ text
  | notJson _ => "JSON decode error"

end Complaint

/-- A problem: where it lies and what it is. -/
structure Problem where
  path : Path
  complaint : Complaint
deriving DecidableEq

namespace Problem

/-- The same problem, seen from one step further out. -/
def under (step : PathStep) (p : Problem) : Problem := { p with path := step :: p.path }

/-- The problem as a value. -/
def value (source : Source) (p : Problem) : Value := .object
  [("type", .text (p.complaint.kind source)), ("loc", .list (p.path.map PathStep.value)),
   ("msg", .text (p.complaint.message source))]

end Problem

end RaceAlbum
