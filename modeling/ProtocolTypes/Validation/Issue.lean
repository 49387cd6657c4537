/-!
# Validation issues

What a check can find wrong with a document value, where in the document, and in
which words.
-/

namespace ProtocolTypes

/-- One step from a value to a part of it. -/
inductive LocationStep
  | key (name : String)
  | index (position : Int)
  deriving DecidableEq, Repr

/-- What is wrong with a value. -/
inductive Problem
  | missing
  | stringType
  /-- Bytes that are no text. -/
  | stringEncoding
  | intType
  | intParsing
  | intFromFloat
  | intParsingSize
  | finiteNumber
  | floatType
  | floatParsing
  | boolType
  | boolParsing
  | listType
  | recordType (record : String)
  | kindSpelling
  | keyType
  /-- A number with too many digits to be written as a text. -/
  | unwritableNumber
  deriving DecidableEq, Repr

namespace Problem

/-- The short name of a problem. -/
def code : Problem → String
  | missing => "missing"
  | stringType => "string_type"
  | stringEncoding => "string_unicode"
  | intType => "int_type"
  | intParsing => "int_parsing"
  | intFromFloat => "int_from_float"
  | intParsingSize => "int_parsing_size"
  | finiteNumber => "finite_number"
  | floatType => "float_type"
  | floatParsing => "float_parsing"
  | boolType => "bool_type"
  | boolParsing => "bool_parsing"
  | listType => "list_type"
  | recordType _ => "model_type"
  | kindSpelling => "enum"
  | keyType => "invalid_key"
  | unwritableNumber => "unwritable_number"

/-- The wording of a problem. -/
def message : Problem → String
  | missing => "Field required"
  | stringType => "Input should be a valid string"
  | stringEncoding =>
    "Input should be a valid string, unable to parse raw data as a unicode string"
  | intType => "Input should be a valid integer"
  | intParsing => "Input should be a valid integer, unable to parse string as an integer"
  | intFromFloat => "Input should be a valid integer, got a number with a fractional part"
  | intParsingSize => "Unable to parse input string as an integer, exceeded maximum size"
  | finiteNumber => "Input should be a finite number"
  | floatType => "Input should be a valid number"
  | floatParsing => "Input should be a valid number, unable to parse string as a number"
  | boolType => "Input should be a valid boolean"
  | boolParsing => "Input should be a valid boolean, unable to interpret input"
  | listType => "Input should be a valid list"
  | recordType record => "Input should be a valid dictionary or instance of " ++ record
  | kindSpelling => "Input should be 'event', 'request' or 'response'"
  | keyType => "Keys should be strings"
  | unwritableNumber => "Numbers should be short enough to be written"

end Problem

/-- A problem at a place of the document. -/
structure Issue where
  location : List LocationStep
  problem : Problem
  deriving DecidableEq, Repr

namespace Issue

/-- The issue of a value on its own. -/
def here (problem : Problem) : Issue := ⟨[], problem⟩

/-- The same issue seen from one step above. -/
def under (step : LocationStep) (issue : Issue) : Issue :=
  { issue with location := step :: issue.location }

/-- The headline of the issues that a record was refused for. -/
def headline (record : String) (issues : List Issue) : String :=
  toString issues.length ++ " validation error" ++ (if issues.length = 1 then "" else "s") ++
    " for " ++ record

end Issue
end ProtocolTypes
