import ProtocolTypes.Accident

/-!
# Punycode

An encoding of text in letters, digits and hyphens.  What stands in front of the last
hyphen is ASCII; behind it, numbers of letters and digits tell which other characters are
inserted, and where.
-/

namespace ProtocolTypes
namespace Encoding
namespace Punycode

/-- The number of digits. -/
def base : Nat := 36

/-- The least digit that does not end a number, at a place of the number. -/
def threshold (place bias : Nat) : Nat :=
  min 26 (max 1 (base * (place + 1) - bias))

/-- The value of a digit: letters in any case count from zero, the common digits go on. -/
def digit? (byte : UInt8) : Option Nat :=
  let point := byte.toNat
  if 0x41 ≤ point && point ≤ 0x5A then some (point - 0x41)
  else if 0x61 ≤ point && point ≤ 0x7A then some (point - 0x61)
  else if 0x30 ≤ point && point ≤ 0x39 then some (point - 0x30 + 26)
  else none

/-- The number at the beginning of bytes, and what follows, with the place of the next
digit, its weight and the sum so far. -/
def number? (bias : Nat) (place weight sum : Nat) : List UInt8 → Option (Nat × List UInt8)
  | [] => none
  | byte :: rest =>
    match digit? byte with
    | none => none
    | some digit =>
      if digit < threshold place bias then some (sum + digit * weight, rest)
      else
        number? bias (place + 1) (weight * (base - threshold place bias))
          (sum + digit * weight) rest

/-- The bias that a number comes to, with what has been counted so far. -/
def biasFrom (counted number : Nat) : Nat :=
  if 455 < number then biasFrom (counted + base) (number / 35)
  else counted + base * number / (number + 38)
termination_by number
decreasing_by omega

/-- The bias after a number, which is the first or not, in a text of some characters. -/
def biasAfter (number : Nat) (isFirst : Bool) (length : Nat) : Nat :=
  let scaled := if isFirst then number / 700 else number / 2
  biasFrom 0 (scaled + scaled / length)

/-- How far the numbers have been read. -/
structure Reading where
  text : List Char
  /-- The character that is inserted next, unless the number leads on. -/
  point : Nat := 0x80
  /-- Where it is inserted. -/
  place : Nat := 0
  bias : Nat := 72
  isFirst : Bool := true

namespace Reading

/-- The greatest code point. -/
def maxPoint : Nat := 0x10FFFF

/-- The reading after a number; a character beyond the last one becomes a question mark. -/
def insert (reading : Reading) (number : Nat) : Reading :=
  let length := reading.text.length + 1
  let position := reading.place + number
  let point := reading.point + position / length
  let known := if maxPoint < point then '?'.toNat else point
  let place := position % length
  { text := reading.text.insertIdx place (Char.ofNat known)
    point := known
    place := place + 1
    bias := biasAfter number reading.isFirst length
    isFirst := false }

/-- The text of a reading with bytes to come, by at most that many numbers; what is no
number ends the text. -/
def readWithin (reading : Reading) : Nat → List UInt8 → List Char
  | 0, _ => reading.text
  | bound + 1, bytes =>
    match number? reading.bias 0 1 0 bytes with
    | some (number, rest) => (reading.insert number).readWithin bound rest
    | none => reading.text

end Reading

/-- The character of a byte that should be ASCII. -/
def asciiOf (byte : UInt8) : Char :=
  if byte.toNat < 0x80 then Char.ofNat byte.toNat else '\uFFFD'

/-- The text of bytes; those behind the last hyphen have to be ASCII. -/
def decode (bytes : List UInt8) : Except Accident (List Char) :=
  let hyphen : UInt8 := '-'.toNat.toUInt8
  let behind := (bytes.reverse.takeWhile (· != hyphen)).reverse
  let front := (bytes.take (bytes.length - behind.length)).dropLast
  if behind.any fun byte => 0x80 ≤ byte.toNat then .error .badEncoding
  else .ok (Reading.readWithin { text := front.map asciiOf } behind.length behind)

end Punycode
end Encoding
end ProtocolTypes
