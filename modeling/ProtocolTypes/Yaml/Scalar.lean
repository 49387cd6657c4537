import ProtocolTypes.Accident
import ProtocolTypes.Document.Key
import ProtocolTypes.Number.LooseText
import ProtocolTypes.Text.Base64
import ProtocolTypes.Yaml.Fault
import ProtocolTypes.Yaml.Tag

/-!
# Values of scalars

What the text of a scalar stands for under its tag.  The patterns of plain scalars are
narrower than what is read here, since a tag may be written in front of any text; a
text that does not fit its tag is an accident.
-/

namespace ProtocolTypes
namespace Yaml
namespace Scalar

/-- The outcome of reading a scalar. -/
abbrev Outcome := Except (Interruption Fault)

/-- The accident that a scalar brings about. -/
def broken {α : Type} (accident : Accident) : Outcome α :=
  .error (.accident accident)

/-- The present value, or a bad value. -/
def orBadValue {α : Type} : Option α → Outcome α
  | some value => .ok value
  | none => broken .badValue

/-- The text without underscores. -/
def withoutUnderscores (text : List Char) : List Char :=
  text.filter (· != '_')

/-- The number whose places are these, in base sixty. -/
def ofSixtieths (places : List Int) : Int :=
  places.foldl (fun total place => 60 * total + place) 0

/-- An integer without its first sign. -/
def unsignedInteger (text : List Char) : Outcome Int :=
  match text with
  | [] => broken .missingItem
  | '0' :: 'b' :: digits => orBadValue (Digits.integer? 2 digits)
  | '0' :: 'x' :: digits => orBadValue (Digits.integer? 16 digits)
  | ['0'] => .ok 0
  | '0' :: digits => orBadValue (Digits.integer? 8 ('0' :: digits))
  | text =>
    if text.contains ':' then do
      let places ← (text.splitOn ':').mapM fun place => orBadValue (Digits.integer? 10 place)
      return ofSixtieths places
    else orBadValue (Digits.integer? 10 text)

/-- An integer. -/
def integer (text : List Char) : Outcome Int :=
  match withoutUnderscores text with
  | [] => broken .missingItem
  | written => do
    let (negative, magnitude) := Digits.sign written
    let value ← unsignedInteger magnitude
    return if negative then -value else value

/-- A float as it is written anywhere: white space around it, digits of any script. -/
def plainFloat (text : List Char) : Outcome Float :=
  orBadValue
    (LooseText.plainFloat? (Text.stripWhile Text.isWhiteSpace (text.map Text.commonDigit)))

/-- The sum of places in base sixty, the last one first, from a weight on.  The weights are
exact before they are taken as floats; one beyond all floats is an accident. -/
def addSixtieths : List Float → Nat → Float → Outcome Float
  | [], _, total => .ok total
  | place :: rest, weight, total =>
    match Binary64.ofInt? weight with
    | some factor => addSixtieths rest (60 * weight) (total + place * factor)
    | none => broken .overflow

/-- The float whose places are these, in base sixty. -/
def floatOfSixtieths (places : List Float) : Outcome Float :=
  addSixtieths places.reverse 1 0.0

/-- A float without its first sign, in lower case. -/
def unsignedFloat (text : List Char) : Outcome Float :=
  if text == ".inf".toList then .ok (Float.ofBits 0x7FF0000000000000)
  else if text.contains ':' then do
    let places ← (text.splitOn ':').mapM plainFloat
    floatOfSixtieths places
  else plainFloat text

/-- Whether the text is the word for no number at all, with any sign. -/
def isNoNumber (text : List Char) : Bool :=
  (Digits.sign ((withoutUnderscores text).map Char.toLower)).2 == ".nan".toList

/-- A float. -/
def float (text : List Char) : Outcome Float :=
  match (withoutUnderscores text).map Char.toLower with
  | [] => broken .missingItem
  | written => do
    let (negative, magnitude) := Digits.sign written
    if isNoNumber text then return Float.ofBits 0x7FF8000000000000
    else
      let value ← unsignedFloat magnitude
      return if negative then -value else value

/-- A truth value. -/
def bool (text : List Char) : Outcome Bool :=
  let lower := String.ofList (text.map Char.toLower)
  if ["yes", "true", "on"].contains lower then .ok true
  else if ["no", "false", "off"].contains lower then .ok false
  else broken .missingKey

/-- The first one or two digits and what follows them. -/
def oneOrTwoDigits (text : List Char) : Nat × List Char :=
  let digits := (text.take 2).takeWhile Char.isDigit
  (Digits.natural digits, text.drop digits.length)

/-- The millionths of a second that a fraction's digits stand for. -/
def microseconds (digits : List Char) : Nat :=
  Digits.natural ((digits ++ List.replicate 6 '0').take 6)

/-- The offset in seconds at the end of a moment, if it is one that a day has; no text
means that it is not known. -/
def offset? (text : List Char) : Outcome (Option Int) :=
  match text with
  | [] => .ok none
  | ['Z'] => .ok (some 0)
  | text =>
    let (negative, magnitude) := Digits.sign text
    let (hours, rest) := oneOrTwoDigits magnitude
    let minutes := (oneOrTwoDigits (rest.drop 1)).1
    let seconds := (hours * 60 + minutes) * 60
    if seconds < 24 * 60 * 60 then .ok (some (Digits.signed negative seconds))
    else broken .badValue

/-- The time of a day, after the text that separates the two. -/
def moment (day : Day) (text : List Char) : Outcome Moment := do
  let (hour, afterHour) := oneOrTwoDigits text
  let (minute, afterMinute) := oneOrTwoDigits (afterHour.drop 1)
  let (second, afterSecond) := oneOrTwoDigits (afterMinute.drop 1)
  let (fraction, rest) :=
    match afterSecond with
    | '.' :: digits => (digits.takeWhile Char.isDigit, digits.dropWhile Char.isDigit)
    | rest => ([], rest)
  let offset ← offset? (rest.dropWhile fun character => character == ' ' || character == '\t')
  let moment : Moment := ⟨day, hour, minute, second, microseconds fraction, offset⟩
  if day.isValid && hour < 24 && minute < 60 && second < 60 then .ok moment
  else broken .badValue

/-- The spellings that a tagged day or moment may have. -/
def taggedTimestampPattern : Pattern :=
  Pattern.choice
    [ Pattern.sequence
        [ Tag.fourDigits, Pattern.oneOf "-", Tag.oneOrTwoDigits, Pattern.oneOf "-",
          Tag.oneOrTwoDigits ],
      Tag.momentPattern ]

/-- The text without the newline that it ends in, if there is one. -/
def withoutLastNewline (text : List Char) : List Char :=
  if text.getLast? == some '\n' then text.dropLast else text

/-- A day or a moment; one newline may follow it. -/
def timestamp (written : List Char) : Outcome Value :=
  if !taggedTimestampPattern.acceptsLine written then broken .missingMember
  else
    let text := withoutLastNewline written
    let year := Digits.natural (text.take 4)
    let (month, afterMonth) := oneOrTwoDigits (text.drop 5)
    let (dayOfMonth, afterDay) := oneOrTwoDigits (afterMonth.drop 1)
    let day : Day := ⟨year, month, dayOfMonth⟩
    if afterDay.isEmpty then
      if day.isValid then .ok (.date day) else broken .badValue
    else
      let time := afterDay.dropWhile fun character => !character.isDigit
      (moment day time).map .datetime

/-- Bytes. -/
def binary (text : List Char) : Outcome Value :=
  if text.any fun character => 0x80 ≤ character.toNat then .error (.reported .badBinary)
  else
    match Base64.decode? text with
    | some bytes => .ok (.bytes bytes)
    | none => .error (.reported .badBinary)

end Scalar
end Yaml
end ProtocolTypes
