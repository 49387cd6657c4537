import ProtocolTypes.Document.Value
import ProtocolTypes.Json.Fault
import ProtocolTypes.Number.Binary64
import ProtocolTypes.Number.Digits
import ProtocolTypes.Text.Surrogate

/-!
# Reading JSON

A JSON text to the value it stands for, or the fault of the text.  Besides the
standard grammar the three words `NaN`, `Infinity` and `-Infinity` are numbers; of
entries under one key the last counts, in the place of the first; a number with a
fraction or an exponent is a float.  A step of the reader takes the characters that
are left and returns those it leaves; where it stops, what is left marks the place.
-/

namespace ProtocolTypes
namespace Json

/-- Why a step stops: a fault with the characters left at its place, or an integer of
more digits than are converted. -/
inductive Stop
  | fault (reason : Reason) (left : List Char)
  | hugeInteger

/-- A step: what it read, and the characters that are left. -/
abbrev Step (α : Type) := Except Stop (α × List Char)

/-- Blanks between tokens. -/
def isBlank (character : Char) : Bool :=
  character == ' ' || character == '\t' || character == '\n' || character == '\r'

/-- The characters after the blanks. -/
def skipBlanks (text : List Char) : List Char :=
  text.dropWhile isBlank

/-- The characters after those of the word, if the text begins with it. -/
def afterWord? (word text : List Char) : Option (List Char) :=
  if word.isPrefixOf text then some (text.drop word.length) else none

/-- The value of four digits in base sixteen, and what follows them. -/
def hexQuad? : List Char → Option (Nat × List Char)
  | first :: second :: third :: fourth :: rest => do
    let high := 16 * (← Digits.valueIn? 16 first) + (← Digits.valueIn? 16 second)
    let low := 16 * (← Digits.valueIn? 16 third) + (← Digits.valueIn? 16 fourth)
    return (256 * high + low, rest)
  | _ => none

/-- The character of a short escape. -/
def shortEscape? : Char → Option Char
  | '"' => some '"'
  | '\\' => some '\\'
  | '/' => some '/'
  | 'b' => some '\x08'
  | 'f' => some '\x0c'
  | 'n' => some '\n'
  | 'r' => some '\r'
  | 't' => some '\t'
  | _ => none

variable [StandIns]

/-- The character of a long escape, given the characters after its `u`; a pair of
surrogates is one character, and one alone is kept.  A character has to follow the digits.
A refusal gives the text from the `u` of the escape at fault on, which may be the second of
a pair. -/
def longEscape (text : List Char) : Except (List Char) (Char × List Char) :=
  match hexQuad? text with
  | none => .error ('u' :: text)
  | some (_, []) => .error ('u' :: text)
  | some (high, rest) =>
    if 0xD800 ≤ high && high ≤ 0xDBFF then
      match rest with
      | '\\' :: 'u' :: digits =>
        match digits with
        | _ :: _ :: _ :: _ :: _ :: _ =>
          match hexQuad? digits with
          | none => .error ('u' :: digits)
          | some (low, after) =>
            if 0xDC00 ≤ low && low ≤ 0xDFFF then
              .ok (Char.ofNat (0x10000 + (high - 0xD800) * 0x400 + (low - 0xDC00)), after)
            else .ok (StandIns.ofPoint high, rest)
        | _ => .ok (StandIns.ofPoint high, rest)
      | _ => .ok (StandIns.ofPoint high, rest)
    else .ok (StandIns.ofPoint high, rest)

/-- The rest of a string after its opening quote, by at most that many characters; `start`
is the text from that quote on, `read` what was read of the string, reversed. -/
def readString (start : List Char) : Nat → List Char → List Char → Step String
  | 0, _, _ => .error (.fault .unterminatedString start)
  | _ + 1, _, [] => .error (.fault .unterminatedString start)
  | _ + 1, read, '"' :: rest => .ok (String.ofList read.reverse, rest)
  | _ + 1, _, ['\\'] => .error (.fault .unterminatedString start)
  | fuel + 1, read, '\\' :: 'u' :: rest =>
    match longEscape rest with
    | .ok (character, after) => readString start fuel (character :: read) after
    | .error left => .error (.fault .badUnicodeEscape left)
  | fuel + 1, read, '\\' :: escape :: rest =>
    match shortEscape? escape with
    | some character => readString start fuel (character :: read) rest
    | none => .error (.fault .badEscape ('\\' :: escape :: rest))
  | fuel + 1, read, character :: rest =>
    if character.toNat < 0x20 then .error (.fault .controlCharacter (character :: rest))
    else readString start fuel (character :: read) rest

/-- The fraction of a number: its digits, if a point and a digit begin the text. -/
def fraction? : List Char → Option (List Char × List Char)
  | '.' :: rest =>
    let digits := rest.takeWhile Char.isDigit
    if digits.isEmpty then none else some (digits, rest.dropWhile Char.isDigit)
  | _ => none

/-- The exponent of a number, if the text begins with a whole one. -/
def exponent? : List Char → Option (Int × List Char)
  | mark :: rest =>
    if mark == 'e' || mark == 'E' then
      let (negative, afterSign) := Digits.sign rest
      let digits := afterSign.takeWhile Char.isDigit
      if digits.isEmpty then none
      else
        some (Digits.signed negative (Digits.natural digits), afterSign.dropWhile Char.isDigit)
    else none
  | [] => none

/-- The digits in front of a number's point: a zero stands alone. -/
def wholeDigits : List Char → List Char × List Char
  | '0' :: rest => (['0'], rest)
  | text => (text.takeWhile Char.isDigit, text.dropWhile Char.isDigit)

/-- A number without its sign; `start` is the text from the sign on. -/
def readMagnitude (start : List Char) (negative : Bool) (text : List Char) : Step Value :=
  let (whole, afterWhole) := wholeDigits text
  if whole.isEmpty then .error (.fault .expectingValue start)
  else
    let (decimals, afterFraction) := (fraction? afterWhole).getD ([], afterWhole)
    let tens := exponent? afterFraction
    if decimals.isEmpty && tens.isNone then
      if Digits.maxDecimalDigits < whole.length then .error .hugeInteger
      else
        .ok (.int (Digits.signed negative (Digits.natural whole)), afterFraction)
    else
      let (exponent, left) := tens.getD (0, afterFraction)
      let significand := Digits.natural (whole ++ decimals)
      .ok (.float (Binary64.ofDecimal negative significand (exponent - decimals.length)), left)

/-- A number. -/
def readNumber (text : List Char) : Step Value :=
  match text with
  | '-' :: rest => readMagnitude text true rest
  | _ => readMagnitude text false text

/-- The words that stand for a value. -/
def words : List (List Char × Value) :=
  [ ("null".toList, .null), ("true".toList, .bool true), ("false".toList, .bool false),
    ("NaN".toList, .float (Float.ofBits 0x7FF8000000000000)),
    ("Infinity".toList, .float (Float.ofBits 0x7FF0000000000000)),
    ("-Infinity".toList, .float (Float.ofBits 0xFFF0000000000000)) ]

/-- A word that stands for a value, if the text begins with one. -/
def readWord? (text : List Char) : Option (Value × List Char) :=
  words.findSome? fun (word, value) => (afterWord? word text).map fun left => (value, left)

mutual

/-- A value. -/
def readValue : Nat → List Char → Step Value
  | 0, text => .error (.fault .expectingValue text)
  | fuel + 1, text =>
    match text with
    | '"' :: rest => (readString text fuel [] rest).map fun (value, left) =>
        (.str value, left)
    | '\x7b' :: rest =>
      match skipBlanks rest with
      | '\x7d' :: left => .ok (.map [], left)
      | left => (readEntries fuel [] left).map fun (entries, left) => (.map entries, left)
    | '[' :: rest =>
      match skipBlanks rest with
      | ']' :: left => .ok (.list [], left)
      | left => (readItems fuel [] left).map fun (items, left) => (.list items, left)
    | text =>
      match readWord? text with
      | some found => .ok found
      | none => readNumber text

/-- The items of a list up to its end, those read so far reversed. -/
def readItems : Nat → List Value → List Char → Except Stop (List Value × List Char)
  | 0, _, text => .error (.fault .expectingValue text)
  | fuel + 1, items, text => do
    let (item, afterItem) ← readValue fuel text
    match skipBlanks afterItem with
    | ']' :: left => .ok ((item :: items).reverse, left)
    | ',' :: left => readItems fuel (item :: items) (skipBlanks left)
    | left => .error (.fault .expectingComma left)

/-- The entries of a map up to its end, after those read so far. -/
def readEntries :
    Nat → List (Value × Value) → List Char → Except Stop (List (Value × Value) × List Char)
  | 0, _, text => .error (.fault .expectingName text)
  | fuel + 1, entries, text =>
    match text with
    | '"' :: rest => do
      let (key, afterKey) ← readString text fuel [] rest
      match skipBlanks afterKey with
      | ':' :: afterColon =>
        let (value, afterValue) ← readValue fuel (skipBlanks afterColon)
        let grown := Value.setEntry key value entries
        match skipBlanks afterValue with
        | '\x7d' :: left => .ok (grown, left)
        | ',' :: left => readEntries fuel grown (skipBlanks left)
        | left => .error (.fault .expectingComma left)
      | left => .error (.fault .expectingColon left)
    | left => .error (.fault .expectingName left)

end

/-- Why a text has no value. -/
inductive Refusal
  | fault (fault : Fault)
  | hugeInteger

/-- The whole text as one value.  Each character read spends at most two steps of depth, one
for a bracket and one for the first item behind it, so that more steps than characters are
left wherever a string begins. -/
def readWhole (text : List Char) : Except Stop Value := do
  let start := skipBlanks text
  let (value, left) ← readValue (2 * text.length + 2) start
  match skipBlanks left with
  | [] => .ok value
  | extra => .error (.fault .extraData extra)

/-- The value of a JSON text. -/
def read (text : String) : Except Refusal Value :=
  let characters := text.toList
  if ['\uFEFF'].isPrefixOf characters then
    .error (.fault (Fault.locate characters 0 .byteOrderMark))
  else
    (readWhole characters).mapError fun
      | .fault reason left =>
        .fault (Fault.locate characters (characters.length - left.length) reason)
      | .hugeInteger => .hugeInteger

end Json
end ProtocolTypes
