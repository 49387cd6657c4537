import ProtocolTypes.Encoding.Unicode
import ProtocolTypes.Text.Base64

/-!
# Shifted text

An encoding of Unicode in seven bits: a plus shifts to digits of six bits each, which hold
units of two bytes, and whatever is no digit shifts back.
-/

namespace ProtocolTypes
namespace Encoding

/-- What has been read since a shift. -/
structure Shift where
  /-- The bits that are in no unit yet, as a number. -/
  held : Nat := 0
  bits : Nat := 0
  /-- The first unit of a character that wants another. -/
  opening : Option Nat := none

namespace Shift

/-- The number of bits of a unit. -/
def unitBits : Nat := 16

variable [StandIns]

/-- Takes a unit where none is waited for: a first one of two waits for the other. -/
def takeNew (shift : Shift) (unit : Nat) : List Char × Shift :=
  if 0xD800 ≤ unit && unit < 0xDC00 then ([], { shift with opening := some unit })
  else ([StandIns.ofPoint unit], { shift with opening := none })

/-- Takes a unit; a first one of two that the other does not follow is kept alone. -/
def takeUnit (shift : Shift) (unit : Nat) : List Char × Shift :=
  match shift.opening with
  | some first =>
    if 0xDC00 ≤ unit && unit < 0xE000 then
      ([Char.ofNat (0x10000 + (first - 0xD800) * 0x400 + (unit - 0xDC00))],
        { shift with opening := none })
    else
      let (found, next) := shift.takeNew unit
      (StandIns.ofPoint first :: found, next)
  | none => shift.takeNew unit

/-- Takes a digit, which may complete a unit. -/
def takeDigit (shift : Shift) (digit : Nat) : List Char × Shift :=
  let held := 64 * shift.held + digit
  let bits := shift.bits + 6
  if unitBits ≤ bits then
    let spare := Nat.pow 2 (bits - unitBits)
    ({ shift with held := held % spare, bits := bits - unitBits }).takeUnit (held / spare)
  else ([], { shift with held := held, bits := bits })

/-- Whether digits or bits are left that belong to no unit. -/
def hasRest (shift : Shift) : Bool :=
  6 ≤ shift.bits || (0 < shift.bits && shift.held != 0)

end Shift

/-- Where a place lies with regard to shifts. -/
inductive ShiftState
  | plain
  /-- Directly after a plus. -/
  | opened
  | shifted (shift : Shift)

/-- The byte that shifts. -/
def plus : UInt8 := 0x2B

/-- The byte that shifts back and stands for nothing else. -/
def minus : UInt8 := 0x2D

/-- What is left of a shift in front of a byte that ends it: a unit that waits for another,
where the byte stands for itself. -/
def waiting [StandIns] (shift : Shift) (byte : UInt8) : List Char :=
  if byte < 0x80 && byte != plus then (shift.opening.map StandIns.ofPoint).toList else []

/-- The character of a byte outside of a shift. -/
def directCharacter (byte : UInt8) : Char :=
  if byte < 0x80 then Char.ofNat byte.toNat else replacementCharacter

/-- The text of bytes from a place on. -/
def decodeShiftedFrom [StandIns] : ShiftState → List UInt8 → List Char
  | .plain, [] => []
  | .opened, [] => []
  | .shifted shift, [] =>
    if shift.hasRest || shift.opening.isSome then [replacementCharacter] else []
  | .plain, byte :: rest =>
    if byte == plus then decodeShiftedFrom .opened rest
    else directCharacter byte :: decodeShiftedFrom .plain rest
  | .opened, byte :: rest =>
    match Base64.value? (Char.ofNat byte.toNat) with
    | some digit =>
      let (found, next) := ({} : Shift).takeDigit digit
      found ++ decodeShiftedFrom (.shifted next) rest
    | none =>
      (if byte == minus then '+' else replacementCharacter) :: decodeShiftedFrom .plain rest
  | .shifted shift, byte :: rest =>
    match Base64.value? (Char.ofNat byte.toNat) with
    | some digit =>
      let (found, next) := shift.takeDigit digit
      found ++ decodeShiftedFrom (.shifted next) rest
    | none =>
      if shift.hasRest then replacementCharacter :: decodeShiftedFrom .plain rest
      else if byte == minus then waiting shift byte ++ decodeShiftedFrom .plain rest
      else if byte == plus then decodeShiftedFrom .opened rest
      else waiting shift byte ++ directCharacter byte :: decodeShiftedFrom .plain rest

/-- The text of bytes. -/
def decodeShifted [StandIns] (bytes : List UInt8) : List Char :=
  decodeShiftedFrom .plain bytes

end Encoding
end ProtocolTypes
