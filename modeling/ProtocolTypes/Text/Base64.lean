/-!
# Base 64

Bytes written six bits at a time.  Characters outside of the alphabet are passed over;
padding that completes a group of four ends the text.
-/

namespace ProtocolTypes
namespace Base64

/-- The digits, in the order of their values. -/
def alphabet : List Char :=
  "ABCDEFGHIJKLMNOPQRSTUVWXYZabcdefghijklmnopqrstuvwxyz0123456789+/".toList

/-- The value of a digit. -/
def value? (character : Char) : Option Nat :=
  alphabet.findIdx? (· == character)

/-- The bytes from a place on: `held` digits of the open group were read, whose last
bits `bits` are not yet in a byte, and `padding` marks directly before the place. -/
def decodeFrom (held bits padding : Nat) : List Char → Option (List UInt8)
  | [] => if held = 0 then some [] else none
  | character :: rest =>
    if character == '=' then
      if 2 ≤ held && 4 ≤ held + padding + 1 then some []
      else decodeFrom held bits (if 2 ≤ held then padding + 1 else padding) rest
    else
      match value? character with
      | none => decodeFrom held bits padding rest
      | some digit =>
        match held with
        | 0 => decodeFrom 1 digit 0 rest
        | 1 => (decodeFrom 2 (digit % 16) 0 rest).map ((bits * 4 + digit / 16).toUInt8 :: ·)
        | 2 => (decodeFrom 3 (digit % 4) 0 rest).map ((bits * 16 + digit / 4).toUInt8 :: ·)
        | _ => (decodeFrom 0 0 0 rest).map ((bits * 64 + digit).toUInt8 :: ·)

/-- The bytes of a text, unless it ends within a group. -/
def decode? (text : List Char) : Option (List UInt8) :=
  decodeFrom 0 0 0 text

end Base64
end ProtocolTypes
