import ProtocolTypes.Text.PointSet

/-!
# Decimal digits of all scripts

Every script with digits of its own has ten of them in a row, from zero on.  Other marks
have the value of a digit without being one.
-/

namespace ProtocolTypes
namespace Text

/-- The code points of the zeros in version 14 of the Unicode standard. -/
def zeroPoints : List Nat :=
  [ 0x0030, 0x0660, 0x06F0, 0x07C0, 0x0966, 0x09E6, 0x0A66, 0x0AE6, 0x0B66, 0x0BE6, 0x0C66,
    0x0CE6, 0x0D66, 0x0DE6, 0x0E50, 0x0ED0, 0x0F20, 0x1040, 0x1090, 0x17E0, 0x1810, 0x1946,
    0x19D0, 0x1A80, 0x1A90, 0x1B50, 0x1BB0, 0x1C40, 0x1C50, 0xA620, 0xA8D0, 0xA900, 0xA9D0,
    0xA9F0, 0xAA50, 0xABF0, 0xFF10, 0x104A0, 0x10D30, 0x11066, 0x110F0, 0x11136, 0x111D0,
    0x112F0, 0x11450, 0x114D0, 0x11650, 0x116C0, 0x11730, 0x118E0, 0x11950, 0x11C50, 0x11D50,
    0x11DA0, 0x16A60, 0x16AC0, 0x16B50, 0x1D7CE, 0x1D7D8, 0x1D7E2, 0x1D7EC, 0x1D7F6,
    0x1E140, 0x1E2F0, 0x1E950, 0x1FBF0 ]

/-- The same digit among the common ones; other characters stay. -/
def commonDigit (character : Char) : Char :=
  let point := character.toNat
  match zeroPoints.find? fun first => first ≤ point && point < first + 10 with
  | some first => Char.ofNat ('0'.toNat + (point - first))
  | none => character

/-- Whether a character is one of the ten digits of a script. -/
def isDecimalDigit (character : Char) : Bool :=
  let point := character.toNat
  zeroPoints.any fun first => first ≤ point && point < first + 10

/-- The ranges of marks that have a digit's value and are no digits of a script: raised,
lowered, circled and the like. -/
def digitMarks : PointSet where
  ranges :=
    [ (0x00B2, 0x00B3), (0x00B9, 0x00B9), (0x1369, 0x1371), (0x19DA, 0x19DA), (0x2070, 0x2070),
      (0x2074, 0x2079), (0x2080, 0x2089), (0x2460, 0x2468), (0x2474, 0x247C), (0x2488, 0x2490),
      (0x24EA, 0x24EA), (0x24F5, 0x24FD), (0x24FF, 0x24FF), (0x2776, 0x277E), (0x2780, 0x2788),
      (0x278A, 0x2792), (0x10A40, 0x10A43), (0x10E60, 0x10E68), (0x11052, 0x1105A),
      (0x1F100, 0x1F10A) ]

/-- Whether a character has a digit's value. -/
def isDigitLike (character : Char) : Bool :=
  isDecimalDigit character || digitMarks.contains character

end Text
end ProtocolTypes
