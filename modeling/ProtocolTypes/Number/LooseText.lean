import ProtocolTypes.Number.Binary64
import ProtocolTypes.Number.Digits
import ProtocolTypes.Text.Blank

/-!
# Loosely written numbers

Integers and floats as people write them into a text field: white space around them,
a sign, single underscores between digits, and for an integer a tail of zeros after the
point and zeros in front.  Only ASCII digits count.
-/

namespace ProtocolTypes
namespace LooseText

/-- The text without the zeros, and the underscores among them, that it begins with; one
zero stays where no other digit follows.  A minus may stand behind zeros, and is kept.  A
text that begins with no digit is none. -/
def dropLeadingZeros? : List Char → Option (List Char)
  | '0' :: rest =>
    let isPassed := fun character => character == '0' || character == '_'
    match rest.dropWhile isPassed with
    | [] => some [('0' :: rest).getLast?.getD '0']
    | '.' :: tail => some ((('0' :: rest.takeWhile isPassed).getLast?.getD '0') :: '.' :: tail)
    | first :: tail => if first.isDigit || first == '-' then some (first :: tail) else none
  | first :: rest => if first.isDigit then some (first :: rest) else none
  | [] => none

/-- The text without a tail of zeros, at least one, after its first point. -/
def dropZeroFraction (text : List Char) : List Char :=
  match text.dropWhile (· != '.') with
  | '.' :: '0' :: tail => if tail.all (· == '0') then text.takeWhile (· != '.') else text
  | _ => text

/-- The most characters of an integer that is read, its sign among them. -/
def maxIntegerLength : Nat := 4300

/-- The integer that a plain text holds: a minus where it is negative, and digits without a
needless zero in front.  Nothing may stand around it. -/
def plainInteger? (text : List Char) : Option Int :=
  let (negative, digits) :=
    match text with
    | '-' :: rest => (true, rest)
    | _ => (false, text)
  if digits.isEmpty || !digits.all Char.isDigit then none
  else if digits.head? == some '0' && digits.length ≠ 1 then none
  else some (Digits.signed negative (Digits.natural digits))

/-- Whether the text begins with a plain integer of too many characters. -/
def isOverlong (text : List Char) : Bool :=
  let (sign, rest) :=
    match text with
    | '-' :: rest => (1, rest)
    | _ => (0, text)
  let digits := rest.takeWhile Char.isDigit
  digits.head? != some '0' && maxIntegerLength < sign + digits.length

/-- The text after a plus. -/
def dropPlus? : List Char → Option (List Char)
  | '+' :: '-' :: _ => none
  | '+' :: rest => some rest
  | text => some text

/-- The text without needless zeros in front, which may follow a minus. -/
def withoutLeadingZeros? : List Char → Option (List Char)
  | '-' :: rest => (dropLeadingZeros? rest).map ('-' :: ·)
  | text => dropLeadingZeros? text

/-- The plain text of a loosely written integer. -/
def plainText? (text : List Char) : Option (List Char) := do
  let magnitude ← dropPlus? (Text.stripWhile Text.isWhiteSpace text)
  let written ← withoutLeadingZeros? magnitude
  Digits.joinGroups? (dropZeroFraction written)

/-- How a text that should hold an integer fails. -/
inductive IntegerFault
  | malformed
  | overlong
  deriving DecidableEq, Repr

/-- A loosely written integer.  Only a text that is plain to begin with can be refused for
its length; a loose one that is too long counts as malformed. -/
def integer (text : String) : Except IntegerFault Int :=
  let written := text.toList
  if isOverlong written then .error .overlong
  else
    match plainInteger? written with
    | some value => .ok value
    | none =>
      match plainText? written with
      | some plain =>
        if isOverlong plain then .error .malformed
        else
          match plainInteger? plain with
          | some value => .ok value
          | none => .error .malformed
      | none => .error .malformed

/-- The words for infinity and for no number at all. -/
def word? (text : List Char) : Option Float :=
  match String.ofList (text.map Char.toLower) with
  | "inf" => some (Float.ofBits 0x7FF0000000000000)
  | "infinity" => some (Float.ofBits 0x7FF0000000000000)
  | "nan" => some (Float.ofBits 0x7FF8000000000000)
  | _ => none

/-- An exponent of ten: a mark, a sign and digits; the empty text is exponent zero. -/
def exponent? : List Char → Option Int
  | [] => some 0
  | mark :: rest =>
    if mark == 'e' || mark == 'E' then
      let (negative, digits) := Digits.sign rest
      if !digits.isEmpty && digits.all Char.isDigit then
        some (Digits.signed negative (Digits.natural digits))
      else none
    else none

/-- A decimal number without a sign: digits on at least one side of the point. -/
def unsignedDecimal? (text : List Char) : Option (Nat × Int) :=
  let whole := text.takeWhile Char.isDigit
  let afterWhole := text.dropWhile Char.isDigit
  let (decimals, tail) :=
    match afterWhole with
    | '.' :: rest => (rest.takeWhile Char.isDigit, rest.dropWhile Char.isDigit)
    | rest => ([], rest)
  if whole.isEmpty && decimals.isEmpty then none
  else
    (exponent? tail).map fun exponent =>
      (Digits.natural (whole ++ decimals), exponent - decimals.length)

/-- A float with nothing around it. -/
def plainFloat? (text : List Char) : Option Float :=
  let (negative, magnitude) := Digits.sign text
  match word? magnitude with
  | some value => some (if negative then -value else value)
  | none =>
    (unsignedDecimal? magnitude).map fun (significand, exponent) =>
      Binary64.ofDecimal negative significand exponent

/-- A loosely written float: white space around it, or underscores between its characters,
but not both. -/
def float? (text : String) : Option Float :=
  match plainFloat? (Text.stripWhile Text.isWhiteSpace text.toList) with
  | some value => some value
  | none => Digits.joinGroups? text.toList >>= plainFloat?

end LooseText
end ProtocolTypes
