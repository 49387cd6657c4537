import ProtocolTypes.Encoding.Unicode
import ProtocolTypes.Number.Digits

/-!
# Escaped text

An encoding of one byte a character, in which a backslash and a letter announce the
number of a character, or in the fuller form also one of the control characters.
-/

namespace ProtocolTypes
namespace Encoding

/-- The characters that letters after a backslash stand for. -/
def escapeLetters : List (Char × Char) :=
  [ ('\\', '\\'), ('\'', '\''), ('"', '"'), ('a', '\x07'), ('b', '\x08'), ('f', '\x0C'),
    ('n', '\n'), ('r', '\r'), ('t', '\t'), ('v', '\x0B') ]

/-- The letters that announce a number, with the count of its digits. -/
def numberLetters : List (Char × Nat) := [('x', 2), ('u', 4), ('U', 8)]

variable [StandIns]

/-- A number of that many digits: what it stands for, and what is left.  A digit that is
missing breaks the escape off in front of it. -/
def decodeNumber (count : Nat) (text : List Char) : Char × List Char :=
  let digits := (text.take count).takeWhile fun digit => (Digits.valueIn? 16 digit).isSome
  let meant :=
    if digits.length = count then (Digits.naturalIn? 16 digits).bind characterOrSurrogate?
    else none
  (meant.getD replacementCharacter, text.drop digits.length)

/-- A name in braces, none of which is known, after the letter that announces it. -/
def dropName (text : List Char) : List Char :=
  match text with
  | '\x7b' :: '\x7d' :: _ => text.tail
  | '\x7b' :: rest => (rest.dropWhile (· != '\x7d')).tail
  | _ => text

/-- The character of a number in base eight, of three digits at most, and what is left. -/
def decodeOctal (text : List Char) : Char × List Char :=
  let digits := (text.take 3).takeWhile fun digit => (Digits.valueIn? 8 digit).isSome
  (Char.ofNat ((Digits.naturalIn? 8 digits).getD 0), text.drop digits.length)

/-- What an escape stands for in the fuller form, and what is left after it. -/
def decodeEscape : List Char → List Char × List Char
  | [] => ([replacementCharacter], [])
  | letter :: rest =>
    match escapeLetters.lookup letter, numberLetters.lookup letter with
    | some character, _ => ([character], rest)
    | none, some count =>
      let (character, left) := decodeNumber count rest
      ([character], left)
    | none, none =>
      if letter == '\n' then ([], rest)
      else if letter == 'N' then ([replacementCharacter], dropName rest)
      else if (Digits.valueIn? 8 letter).isSome then
        let (character, left) := decodeOctal (letter :: rest)
        ([character], left)
      else (['\\', letter], rest)

/-- What an escape stands for where only numbers of four and eight digits are announced. -/
def decodeRawEscape : List Char → List Char × List Char
  | [] => (['\\'], [])
  | letter :: rest =>
    if letter == 'u' || letter == 'U' then
      let (character, left) := decodeNumber (if letter == 'u' then 4 else 8) rest
      ([character], left)
    else (['\\', letter], rest)

/-- The text of characters, given how an escape is read; no more steps than characters. -/
def decodeEscapesFrom (escape : List Char → List Char × List Char) :
    Nat → List Char → List Char
  | 0, _ => []
  | _ + 1, [] => []
  | fuel + 1, character :: rest =>
    if character == '\\' then
      let (meant, left) := escape rest
      meant ++ decodeEscapesFrom escape fuel left
    else character :: decodeEscapesFrom escape fuel rest

/-- The text of bytes with escapes of that form. -/
def decodeEscapes
    (escape : List Char → List Char × List Char)
    (bytes : List UInt8) :
    List Char :=
  decodeEscapesFrom escape bytes.length (CodePage.latin1.decode bytes)

end Encoding
end ProtocolTypes
