import ProtocolTypes.Encoding.ChineseChart
import ProtocolTypes.Encoding.HongKongChart
import ProtocolTypes.Encoding.Step
import ProtocolTypes.Encoding.TaiwaneseChart

/-!
# Chinese encodings

The mainland encodings, from the smallest set of characters to that which reaches all of
Unicode, and those of Taiwan and Hong Kong.
-/

namespace ProtocolTypes
namespace Encoding
namespace Chinese

/-- The columns of each row of the standard set, by bytes. -/
def standardColumns (row : Nat) : List (Nat × Nat) :=
  match row with
  | 0xA2 => [(0xB1, 0xE2), (0xE5, 0xEE), (0xF1, 0xFC)]
  | 0xA4 => [(0xA1, 0xF3)]
  | 0xA5 => [(0xA1, 0xF6)]
  | 0xA6 => [(0xA1, 0xB8), (0xC1, 0xD8)]
  | 0xA7 => [(0xA1, 0xC1), (0xD1, 0xF1)]
  | 0xA8 => [(0xA1, 0xBA), (0xC5, 0xE9)]
  | 0xA9 => [(0xA4, 0xEF)]
  | 0xD7 => [(0xA1, 0xF9)]
  | _ =>
    if row == 0xA1 || row == 0xA3 || (0xB0 ≤ row && row ≤ 0xF7) then [(0xA1, 0xFE)]
    else []

/-- The characters of the standard set. -/
def standardCharacter? (row column : Nat) : Option Char :=
  if row == 0xA1 && column == 0xA4 then some '\u30FB'
  else if row == 0xA1 && column == 0xAA then some '\u2015'
  else if (standardColumns row).any fun (first, last) => first ≤ column && column ≤ last then
    Chart.chineseUpper.character? row column
  else none

/-- The characters of two bytes that are not of private use. -/
def publicCharacter? : Nat → Nat → Option Char :=
  Chart.find? [Chart.chineseLower, Chart.chineseUpper]

/-- Whether a cell was filled only when the set was made to reach all of Unicode. -/
def isLate (row column : Nat) : Bool :=
  (row == 0xA2 && column == 0xE3) || (row == 0xA8 && column == 0xBF) ||
    (row == 0xA9 && 0x89 ≤ column && column ≤ 0x95) ||
    (row == 0xFE && 0x50 ≤ column && column ≤ 0xA0)

/-- The characters of the extended set. -/
def extendedCharacter? (row column : Nat) : Option Char :=
  if isLate row column then none else publicCharacter? row column

/-- All characters of two bytes. -/
def fullCharacter? (row column : Nat) : Option Char :=
  publicCharacter? row column <|>
    Chart.chinesePrivate.findSome? (·.character? row column)

/-- The least number of four bytes that leads to no character of the first plane. -/
def numberBound : Nat := 39420

/-- The character that a number of four bytes leads to, by the run that it falls into. -/
def runCharacter? (number : Nat) : Option Char :=
  if number < numberBound then
    (Chart.chineseRuns.reverse.find? fun (first, _) => first ≤ number).map fun (first, point) =>
      Char.ofNat (point + (number - first))
  else none

/-- The character of four bytes: the odd ones have 126 values, the even ones ten.  The
higher ones of the first byte go on behind the first plane. -/
def fourByteCharacter? (first second third fourth : UInt8) : Option Char :=
  if first < 0x81 || third < 0x81 || third == 0xFF || fourth < 0x30 || 0x39 < fourth then
    none
  else
    let row := first.toNat - 0x81
    let numberFrom := fun row : Nat =>
      (row * 10 + (second.toNat - 0x30)) * 1260 + (third.toNat - 0x81) * 10 +
        (fourth.toNat - 0x30)
    if row < 4 then runCharacter? (numberFrom row)
    else if row < 15 then none
    else
      let point := 0x10000 + numberFrom (row - 15)
      if point ≤ 0x10FFFF then some (Char.ofNat point) else none

/-- A step in the full set: a digit as second byte makes four bytes. -/
def fullStep (byte : UInt8) (rest : List UInt8) : Step Unit :=
  match rest with
  | second :: others =>
    if 0x80 ≤ byte && 0x30 ≤ second && second ≤ 0x39 then
      match others with
      | third :: fourth :: _ => .ofOption (fourByteCharacter? byte second third fourth) 3
      | _ => .cut
    else pairStep fullCharacter? byte rest
  | [] => pairStep fullCharacter? byte rest

/-- A step in the encoding of seven bits, where a tilde and a brace turn to the standard set
and back. -/
def shiftedStep (isShifted : Bool) (byte : UInt8) (rest : List UInt8) : Step Bool :=
  if byte == '~'.toUInt8 then
    match rest with
    | [] => .cut
    | second :: _ =>
      if isShifted then
        if second == '}'.toUInt8 then .text [] 1 false else .spoiled 0
      else if second == '~'.toUInt8 then .text ['~'] 1 false
      else if second == '{'.toUInt8 then .text [] 1 true
      else if second == '\n'.toUInt8 then .text [] 1 false
      else .spoiled 0
  else if 0x80 ≤ byte then .spoiled 0
  else if isShifted then
    match rest with
    | [] => .cut
    | second :: _ =>
      match standardCharacter? (byte.toNat + 0x80) (second.toNat + 0x80) with
      | some character => .text [character] 1 true
      | none => .spoiled 0
  else .text [Char.ofNat byte.toNat] 0 false

/-- The characters of the Taiwanese set. -/
def taiwaneseCharacter? : Nat → Nat → Option Char :=
  Chart.find? [Chart.taiwaneseLower, Chart.taiwaneseUpper]

/-- What the makers of a system have put into the last row of the set. -/
def lastRow : Chart :=
  .ofRows 0xF9 0xD6 ["碁銹裏墻恒粧嫺╔╦╗╠╬╣╚╩╝╒╤╕╞╪╡╘╧╛╓╥╖╟╫╢╙╨╜║═╭╮╰╯▓"]

/-- The cells where the system departs from the set. -/
def departures : List (Nat × Nat × Char) :=
  [ (0xA1, 0x45, '‧'), (0xA1, 0x4E, '﹑'), (0xA1, 0xC2, '¯'), (0xA1, 0xE3, '～'),
    (0xA1, 0xF2, '⊕'), (0xA1, 0xF3, '⊙'), (0xA2, 0x41, '∕'), (0xA2, 0x42, '﹨'),
    (0xA2, 0x44, '￥'), (0xA2, 0x46, '￠'), (0xA2, 0x47, '￡'), (0xA3, 0xE1, '€') ]

/-- The characters of the Taiwanese set as the system has them. -/
def systemCharacter? (row column : Nat) : Option Char :=
  ((departures.find? fun (first, second, _) => first == row && second == column).map
      fun (_, _, character) => character) <|>
    Chart.find? [lastRow, Chart.taiwaneseLower, Chart.taiwaneseUpper] row column

/-- Whether a cell belongs to Hong Kong even where it holds nothing. -/
def isOfHongKong (row column : Nat) : Bool :=
  (row == 0xC6 && 0xA1 ≤ column) || row == 0xC7 || row == 0xC8

/-- A step with the characters of Hong Kong. -/
def hongKongStep (byte : UInt8) (rest : List UInt8) : Step Unit :=
  if byte < 0x80 then .single byte.toNat
  else
    match rest with
    | [] => .cut
    | second :: _ =>
      let row := byte.toNat
      let column := second.toNat
      match Chart.sequence? Chart.hongKongSequences row column with
      | some sequence => .text sequence 1 ()
      | none =>
        let charts :=
          [Chart.hongKongLower, Chart.hongKongUpper] ++
            if isOfHongKong row column then [] else [Chart.taiwaneseLower, Chart.taiwaneseUpper]
        .ofOption (Chart.find? charts row column) 1

/-- The Chinese encodings. -/
def all : List MultiByte :=
  [ { name := "gb2312"
      aliases :=
        ["chinese", "csiso58gb231280", "euc_cn", "euccn", "eucgb2312_cn", "gb2312_1980",
          "gb2312_80", "iso_ir_58", "x_mac_simp_chinese"]
      decode := decodeStateless (pairStep standardCharacter?) },
    { name := "gbk", aliases := ["936", "cp936", "ms936"]
      decode := decodeStateless (pairStep extendedCharacter?) },
    { name := "gb18030", aliases := ["gb18030_2000"], decode := decodeStateless fullStep },
    { name := "hz", aliases := ["hzgb", "hz_gb", "hz_gb_2312"]
      decode := decodeSteps shiftedStep false },
    { name := "big5", aliases := ["big5_tw", "csbig5", "x_mac_trad_chinese"]
      decode := decodeStateless (pairStep taiwaneseCharacter?) },
    { name := "big5hkscs", aliases := ["big5_hkscs", "hkscs"]
      decode := decodeStateless hongKongStep },
    { name := "cp950", aliases := ["950", "ms950"]
      decode := decodeStateless (pairStep systemCharacter?) } ]

end Chinese
end Encoding
end ProtocolTypes
