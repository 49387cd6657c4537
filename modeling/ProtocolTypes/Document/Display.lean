import ProtocolTypes.Document.Value
import ProtocolTypes.Number.FloatText
import ProtocolTypes.Text.Printable

/-!
# Values in running text

How a value looks in the middle of a text.  A text stands for itself; inside a list or
a map it is quoted, so that the parts can be told apart.
-/

namespace ProtocolTypes
namespace Display

/-- The hexadecimal digits of a number, at least that many. -/
def hexDigits (width number : Nat) : List Char :=
  let digits := Nat.toDigits 16 number
  List.replicate (width - digits.length) '0' ++ digits

/-- The letter that stands for a character after a backslash. -/
def escapeLetter? : Char → Option Char
  | '\n' => some 'n'
  | '\r' => some 'r'
  | '\t' => some 't'
  | _ => none

/-- A character that does not show itself, by its number. -/
def numbered (point : Nat) : List Char :=
  if point < 0x100 then '\\' :: 'x' :: hexDigits 2 point
  else if point < 0x10000 then '\\' :: 'u' :: hexDigits 4 point
  else '\\' :: 'U' :: hexDigits 8 point

/-- A character between such quotes. -/
def quotedChar (quote character : Char) : List Char :=
  if character = quote || character = '\\' then ['\\', character]
  else
    match escapeLetter? character with
    | some letter => ['\\', letter]
    | none => if Text.isPrintable character then [character] else numbered character.toNat

/-- The quotes around a text: double ones where it has single ones and no double ones. -/
def quoteFor (text : List Char) : Char :=
  if text.contains '\'' && !text.contains '"' then '"' else '\''

/-- A text in quotes. -/
def quoted (text : String) : String :=
  let quote := quoteFor text.toList
  String.ofList (quote :: text.toList.flatMap (quotedChar quote) ++ [quote])

/-- The literal for nothing and for the truth values. -/
def truth (value : Bool) : String := if value then "True" else "False"

/-- A byte between such quotes. -/
def quotedByte (quote : Char) (byte : UInt8) : List Char :=
  if 0x80 ≤ byte then numbered byte.toNat else quotedChar quote (Char.ofNat byte.toNat)

/-- Bytes in quotes, those of no ASCII character by their numbers. -/
def quotedBytes (bytes : List UInt8) : String :=
  let quote := quoteFor (bytes.map fun byte => Char.ofNat byte.toNat)
  String.ofList ('b' :: quote :: bytes.flatMap (quotedByte quote) ++ [quote])

/-- A constructor with its arguments. -/
def construction (name : String) (arguments : List String) : String :=
  name ++ "(" ++ ", ".intercalate arguments ++ ")"

/-- The numbers of a day. -/
def dayNumbers (day : Day) : List String :=
  [day.year, day.month, day.day].map toString

/-- The numbers of a time, without the zeros at the end of seconds and their parts. -/
def timeNumbers (moment : Moment) : List String :=
  ([moment.hour, moment.minute] ++
    (if moment.microsecond ≠ 0 then [moment.second, moment.microsecond]
      else if moment.second ≠ 0 then [moment.second]
      else [])).map toString

/-- The seconds of a day. -/
def secondsOfDay : Int := 86400

/-- An offset, which is less than a day either way. -/
def offset (seconds : Int) : String :=
  if seconds = 0 then "datetime.timezone.utc"
  else
    construction "datetime.timezone"
      [construction "datetime.timedelta"
        (if 0 < seconds then ["seconds=" ++ toString seconds]
          else ["days=-1", "seconds=" ++ toString (secondsOfDay + seconds)])]

/-- A day. -/
def day (value : Day) : String := construction "datetime.date" (dayNumbers value)

/-- A moment. -/
def moment (value : Moment) : String :=
  construction "datetime.datetime"
    (dayNumbers value.date ++ timeNumbers value ++
      (value.offset.map fun seconds => "tzinfo=" ++ offset seconds).toList)

mutual

/-- A value as a part of a list or a map. -/
def literal : Value → String
  | .null => "None"
  | .bool value => truth value
  | .int value => toString value
  | .float value => FloatText.text value
  | .str value => quoted value
  | .list items => "[" ++ ", ".intercalate (literals items) ++ "]"
  | .map entries => "\x7b" ++ ", ".intercalate (entryLiterals entries) ++ "\x7d"
  | .date value => day value
  | .datetime value => moment value
  | .bytes value => quotedBytes value
  | .set [] => "set()"
  | .set (first :: rest) => "\x7b" ++ ", ".intercalate (literals (first :: rest)) ++ "\x7d"

/-- The literals of all items. -/
def literals : List Value → List String
  | [] => []
  | item :: rest => literal item :: literals rest

/-- The literals of all entries. -/
def entryLiterals : List (Value × Value) → List String
  | [] => []
  | (key, value) :: rest => (literal key ++ ": " ++ literal value) :: entryLiterals rest

end

/-- A value in running text. -/
def text : Value → String
  | .str value => value
  | value => literal value

@[simp]
theorem text_str (value : String) : text (.str value) = value := rfl

end Display

namespace Value

/-- Whether a value counts as true: nothing, zero and what is empty do not. -/
def isTruthy : Value → Bool
  | null => false
  | bool value => value
  | int value => value != 0
  | float value => value != 0.0
  | str value => !value.isEmpty
  | list items => !items.isEmpty
  | map entries => !entries.isEmpty
  | bytes value => !value.isEmpty
  | set members => !members.isEmpty
  | date _ => true
  | datetime _ => true

end Value
end ProtocolTypes
