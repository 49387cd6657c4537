import ProtocolTypes.Encoding.CodePage
import ProtocolTypes.Text.Surrogate

/-!
# Encodings of Unicode

Texts in units of one, two or four bytes.  What is no character is replaced: in units of
one byte the longest start of one at once, in wider units unit by unit, and bytes at the
end that make no unit together.
-/

namespace ProtocolTypes
namespace Encoding

/-- The order of the bytes of a unit. -/
inductive ByteOrder
  | littleEnd
  | bigEnd
  deriving DecidableEq, Repr

/-- The number of a unit's bytes. -/
def ByteOrder.number (order : ByteOrder) (bytes : List UInt8) : Nat :=
  let inOrder :=
    match order with
    | .littleEnd => bytes.reverse
    | .bigEnd => bytes
  inOrder.foldl (fun total byte => 256 * total + byte.toNat) 0

/-- The character of a number, unless it has none. -/
def character? (point : Nat) : Option Char :=
  if point.isValidChar then some (Char.ofNat point) else none

/-- What a number stands for where surrogates are kept. -/
def characterOrSurrogate? [StandIns] (point : Nat) : Option Char :=
  if IsSurrogate point then some (StandIns.ofPoint point) else character? point

/-- How many bytes follow a first byte, with the bounds of the next one. -/
def continuation? (first : Nat) : Option (Nat × Nat × Nat) :=
  if 0xC2 ≤ first && first ≤ 0xDF then some (1, 0x80, 0xBF)
  else if first == 0xE0 then some (2, 0xA0, 0xBF)
  else if first == 0xED then some (2, 0x80, 0x9F)
  else if 0xE1 ≤ first && first ≤ 0xEF then some (2, 0x80, 0xBF)
  else if first == 0xF0 then some (3, 0x90, 0xBF)
  else if 0xF1 ≤ first && first ≤ 0xF3 then some (3, 0x80, 0xBF)
  else if first == 0xF4 then some (3, 0x80, 0x8F)
  else none

/-- The characters from a place inside of a character on: `missing` more bytes belong to
it, the next one within the bounds, and `held` is its number so far. -/
def decodeBytesFrom (missing low high held : Nat) : List UInt8 → List Char
  | [] => if missing = 0 then [] else [replacementCharacter]
  | byte :: rest =>
    let value := byte.toNat
    if missing ≠ 0 && low ≤ value && value ≤ high then
      let number := 64 * held + value % 64
      if missing = 1 then Char.ofNat number :: decodeBytesFrom 0 0 0 0 rest
      else decodeBytesFrom (missing - 1) 0x80 0xBF number rest
    else
      let broken := if missing = 0 then [] else [replacementCharacter]
      if value < 0x80 then broken ++ Char.ofNat value :: decodeBytesFrom 0 0 0 0 rest
      else
        match continuation? value with
        | some (1, next) => broken ++ decodeBytesFrom 1 next.1 next.2 (value % 32) rest
        | some (2, next) => broken ++ decodeBytesFrom 2 next.1 next.2 (value % 16) rest
        | some (count, next) => broken ++ decodeBytesFrom count next.1 next.2 (value % 8) rest
        | none => broken ++ replacementCharacter :: decodeBytesFrom 0 0 0 0 rest

/-- The text of bytes in units of one byte. -/
def decodeBytes (bytes : List UInt8) : List Char :=
  match String.fromUTF8? ⟨bytes.toArray⟩ with
  | some text => text.toList
  | none => decodeBytesFrom 0 0 0 0 bytes

/-- The text of bytes in units of two bytes.  Two units stand for a character beyond the
first plane. -/
def decodePairs (order : ByteOrder) : List UInt8 → List Char
  | first :: second :: third :: fourth :: rest =>
    let unit := order.number [first, second]
    let next := order.number [third, fourth]
    if 0xD800 ≤ unit && unit < 0xDC00 then
      if 0xDC00 ≤ next && next < 0xE000 then
        Char.ofNat (0x10000 + (unit - 0xD800) * 0x400 + (next - 0xDC00)) ::
          decodePairs order rest
      else replacementCharacter :: decodePairs order (third :: fourth :: rest)
    else
      (character? unit).getD replacementCharacter ::
        decodePairs order (third :: fourth :: rest)
  | [first, second, _] =>
    let unit := order.number [first, second]
    if 0xD800 ≤ unit && unit < 0xDC00 then [replacementCharacter]
    else [(character? unit).getD replacementCharacter, replacementCharacter]
  | [first, second] => [(character? (order.number [first, second])).getD replacementCharacter]
  | [_] => [replacementCharacter]
  | [] => []
termination_by bytes => bytes.length

/-- The text of bytes in units of four bytes. -/
def decodeQuads (order : ByteOrder) : List UInt8 → List Char
  | first :: second :: third :: fourth :: rest =>
    (character? (order.number [first, second, third, fourth])).getD replacementCharacter ::
      decodeQuads order rest
  | [] => []
  | _ => [replacementCharacter]

end Encoding
end ProtocolTypes
