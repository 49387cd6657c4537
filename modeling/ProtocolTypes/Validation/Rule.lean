import ProtocolTypes.Document.Display
import ProtocolTypes.Number.LooseText
import ProtocolTypes.Validation.Checked

/-!
# Rules for single values

How a document value is taken as a text, a number, a truth value or a list.  The
rules are lax in a fixed way: a number may be written in a text, a whole float may
stand for an integer, and so on; everything else is an issue.
-/

namespace ProtocolTypes

/-- A check of a document value. -/
abbrev Rule (α : Type) := Value → Checked α

namespace Rule

variable {α : Type}

/-- The text that bytes encode; bytes of no text have that problem. -/
def encodedText (problem : Problem) (bytes : List UInt8) : Checked String :=
  match String.fromUTF8? ⟨bytes.toArray⟩ with
  | some text => .valid text
  | none => .refuse problem

/-- Texts, and bytes that encode one. -/
def text : Rule String
  | .str value => .valid value
  | .bytes value => encodedText .stringEncoding value
  | _ => .refuse .stringType

/-- Texts, and numbers as they are written. -/
def textOrNumber : Rule String
  | .int value =>
    match Digits.text? value with
    | some written => .valid written
    | none => .refuse .unwritableNumber
  | .float value => .valid (FloatText.text value)
  | value => text value

/-- The bounds, both excluded, between which a whole float stands for an integer. -/
def wholeFloatBound : Int := 0x8000000000000000

/-- A float that stands for an integer. -/
def wholeFloat (value : Float) : Checked Int :=
  if (Binary64.finite? value).isNone then .refuse .finiteNumber
  else
    match Binary64.toInt? value with
    | none => .refuse .intFromFloat
    | some whole =>
      if -wholeFloatBound < whole && whole < wholeFloatBound then .valid whole
      else .refuse .intParsingSize

/-- A text that holds an integer. -/
def integerText (value : String) : Checked Int :=
  match LooseText.integer value with
  | .ok number => .valid number
  | .error .overlong => .refuse .intParsingSize
  | .error .malformed => .refuse .intParsing

/-- Integers, truth values, whole floats and texts that hold an integer. -/
def integer : Rule Int
  | .int value => .valid value
  | .bool value => .valid (if value then 1 else 0)
  | .float value => wholeFloat value
  | .str value => integerText value
  | .bytes value => (encodedText .intParsing value).bind integerText
  | _ => .refuse .intType

/-- A text that holds a number. -/
def numberText (value : String) : Checked Float :=
  match LooseText.float? value with
  | some number => .valid number
  | none => .refuse .floatParsing

/-- Numbers, truth values and texts that hold a number. -/
def number : Rule Float
  | .float value => .valid value
  | .int value =>
    match Binary64.ofInt? value with
    | some number => .valid number
    | none => .refuse .floatType
  | .bool value => .valid (if value then 1.0 else 0.0)
  | .str value => numberText value
  | .bytes value => (encodedText .floatParsing value).bind numberText
  | _ => .refuse .floatType

/-- The truth value of an integer. -/
def truthOfInteger (value : Int) : Checked Bool :=
  if value = 0 then .valid false
  else if value = 1 then .valid true
  else .refuse .boolParsing

/-- The spellings of the two truth values, in lower case. -/
def falseSpellings : List String := ["0", "off", "f", "false", "n", "no"]

@[inherit_doc falseSpellings]
def trueSpellings : List String := ["1", "on", "t", "true", "y", "yes"]

/-- The truth value of a text, in any letter case. -/
def truthOfText (value : String) : Checked Bool :=
  let lower := value.toLower
  if falseSpellings.contains lower then .valid false
  else if trueSpellings.contains lower then .valid true
  else .refuse .boolParsing

/-- Truth values, and the numbers and texts that stand for one. -/
def boolean : Rule Bool
  | .bool value => .valid value
  | .int value =>
    if -wholeFloatBound ≤ value && value < wholeFloatBound then truthOfInteger value
    else .refuse .boolType
  | .float value =>
    match wholeFloat value with
    | .valid whole => truthOfInteger whole
    | .invalid _ => .refuse .boolType
  | .str value => truthOfText value
  | .bytes value => (encodedText .boolParsing value).bind truthOfText
  | _ => .refuse .boolType

/-- The rule for everything but null, which means that nothing is given. -/
def optional (rule : Rule α) : Rule (Option α)
  | .null => .valid none
  | value => (rule value).map some

/-- The items of a list, or of a set that stands for one. -/
def items? : Value → Option (List Value)
  | .list items => some items
  | .set members => some members
  | _ => none

/-- The rule for every item of a list. -/
def listOf (rule : Rule α) : Rule (List α) := fun value =>
  match items? value with
  | some items =>
    Checked.sequence (items.mapIdx fun position item =>
      (rule item).under (.index position))
  | none => .refuse .listType

end Rule
end ProtocolTypes
