/-!
# Faults of a JSON text

What a JSON reader can hold against a text, where, and in which words.  Positions
count characters from the start of the text; lines end at newlines.
-/

namespace ProtocolTypes
namespace Json

/-- What is wrong at a position. -/
inductive Reason
  | expectingValue
  | expectingComma
  | expectingColon
  | expectingName
  | extraData
  | unterminatedString
  | controlCharacter
  | badEscape
  | badUnicodeEscape
  | byteOrderMark
  deriving DecidableEq, Repr

namespace Reason

/-- The wording of a reason. -/
def message : Reason → String
  | expectingValue => "Expecting value"
  | expectingComma => "Expecting ',' delimiter"
  | expectingColon => "Expecting ':' delimiter"
  | expectingName => "Expecting property name enclosed in double quotes"
  | extraData => "Extra data"
  | unterminatedString => "Unterminated string starting at"
  | controlCharacter => "Invalid control character at"
  | badEscape => "Invalid \\escape"
  | badUnicodeEscape => "Invalid \\uXXXX escape"
  | byteOrderMark => "Unexpected UTF-8 BOM (decode using utf-8-sig)"

end Reason

/-- A fault of a text, at a position in it. -/
structure Fault where
  reason : Reason
  line : Nat
  column : Nat
  position : Nat
  deriving DecidableEq, Repr

namespace Fault

/-- The fault at a position of that text. -/
def locate (text : List Char) (position : Nat) (reason : Reason) : Fault :=
  let before := text.take position
  let lastLine := before.reverse.takeWhile (· != '\n')
  { reason := reason
    line := before.count '\n' + 1
    column := lastLine.length + 1
    position := position }

/-- The wording of a fault. -/
def message (fault : Fault) : String :=
  fault.reason.message ++ ": line " ++ toString fault.line ++ " column " ++
    toString fault.column ++ " (char " ++ toString fault.position ++ ")"

end Fault
end Json
end ProtocolTypes
