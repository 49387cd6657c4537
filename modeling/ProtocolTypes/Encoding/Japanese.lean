import ProtocolTypes.Encoding.ExtendedJapaneseChart
import ProtocolTypes.Encoding.JapaneseChart
import ProtocolTypes.Encoding.Step

/-!
# Japanese encodings

The sets of the national standards, and two ways of putting their rows and columns into
bytes: the one adds a bit to both, the other shifts two rows into one first byte and leaves
bytes to syllables of half the width.
-/

namespace ProtocolTypes
namespace Encoding
namespace Japanese

/-- The syllables of half the width, by their bytes. -/
def narrowSyllable? (byte : UInt8) : Option Char :=
  if 0xA1 ≤ byte && byte ≤ 0xDF then some (Char.ofNat (0xFEC0 + byte.toNat)) else none

/-- The Roman set, which is ASCII but for two characters. -/
def romanCharacter (byte : UInt8) : Char :=
  if byte == '\\'.toUInt8 then '¥'
  else if byte == '~'.toUInt8 then '‾'
  else Char.ofNat byte.toNat

/-- An edition of the standard of two planes. -/
inductive Edition
  | first
  | second

/-- The cells of the first plane that came with the second edition. -/
def lateCells : List (Nat × Nat) :=
  [ (0x2E, 0x21), (0x2F, 0x7E), (0x4F, 0x54), (0x4F, 0x7E), (0x74, 0x27), (0x7E, 0x7A),
    (0x7E, 0x7B), (0x7E, 0x7C), (0x7E, 0x7D), (0x7E, 0x7E) ]

/-- The characters of the first plane, some of which are sequences.  A cell that was filled
later is replaced as a whole. -/
def firstPlane? (edition : Edition) (row column : Nat) : Option (List Char) :=
  let isLate := lateCells.contains (row, column)
  match edition, isLate with
  | .first, true => some [replacementCharacter]
  | _, _ =>
    match Chart.sequence? Chart.japaneseSequences row column with
    | some sequence => some sequence
    | none => (Chart.find? [Chart.japanese, Chart.japaneseFirstPlane] row column).map ([·])

/-- The characters of the second plane, one of which the second edition changed. -/
def secondPlane? (edition : Edition) (row column : Nat) : Option Char :=
  match edition, row, column with
  | .first, 0x7D, 0x3B => some '\u9B1D'
  | _, _, _ => Chart.japaneseSecondPlane.character? row column

/-- A step where both bytes of a cell have their highest bit, two bytes stand for a narrow
syllable, and three for a cell of another set. -/
def raisedStep
    (main : Nat → Nat → Option (List Char))
    (other : Nat → Nat → Option Char)
    (byte : UInt8)
    (rest : List UInt8) :
    Step Unit :=
  let lower := fun byte : UInt8 => (byte ^^^ 0x80).toNat
  if byte < 0x80 then .single byte.toNat
  else
    match rest with
    | [] => .cut
    | second :: others =>
      if byte == narrowMark then .ofOption (narrowSyllable? second) 1
      else if byte == otherMark then
        match others with
        | [] => .cut
        | third :: _ => .ofOption (other (lower second) (lower third)) 2
      else
        match main (lower byte) (lower second) with
        | some characters => .text characters 1 ()
        | none => .spoiled 0
where
  /-- What stands in front of a narrow syllable. -/
  narrowMark : UInt8 := 0x8E
  /-- What stands in front of a cell of the other set. -/
  otherMark : UInt8 := 0x8F

/-- The first bytes of cells. -/
def isShiftedLead (byte : UInt8) : Bool :=
  (0x81 ≤ byte && byte ≤ 0x9F) || (0xE0 ≤ byte && byte ≤ 0xFC)

/-- The number of the row, from zero, and the column of a cell where two rows share a first
byte. -/
def shiftedCell? (first second : UInt8) : Option (Nat × Nat) :=
  let isTrail := (0x40 ≤ second && second ≤ 0x7E) || (0x80 ≤ second && second ≤ 0xFC)
  if isShiftedLead first && isTrail then
    let evenRow := 2 * (first.toNat - if first < 0xE0 then 0x81 else 0xC1)
    let place := second.toNat - if second < 0x80 then 0x40 else 0x41
    some (evenRow + place / 94, place % 94 + 0x21)
  else none

/-- The first row of a set. -/
def firstRow : Nat := 0x21

/-- The last row of a plane, counted from zero. -/
def lastRow : Nat := 0x5D

/-- A step where rows are shifted together: what is no single byte begins a cell, if it can
at all. -/
def shiftedStep
    (single? : UInt8 → Option Char)
    (cell? : UInt8 → UInt8 → Option (List Char))
    (byte : UInt8)
    (rest : List UInt8) :
    Step Unit :=
  match single? byte with
  | some character => .text [character] 0 ()
  | none =>
    if isShiftedLead byte then
      match rest with
      | [] => .cut
      | second :: _ =>
        match cell? byte second with
        | some characters => .text characters 1 ()
        | none => .spoiled 0
    else .spoiled 0

/-- ASCII and the narrow syllables. -/
def plainSingle? (byte : UInt8) : Option Char :=
  if byte < 0x80 then some (Char.ofNat byte.toNat) else narrowSyllable? byte

/-- The Roman set and the narrow syllables. -/
def romanSingle? (byte : UInt8) : Option Char :=
  if byte < 0x80 then some (romanCharacter byte) else narrowSyllable? byte

/-- A cell of the standard set, shifted. -/
def standardCell? (first second : UInt8) : Option (List Char) := do
  let (row, column) ← shiftedCell? first second
  (Chart.japanese.character? (row + firstRow) column).map ([·])

/-- The rows of the second plane that are used, in their order behind the first plane. -/
def secondPlaneRow (number : Nat) : Nat :=
  let scattered := [0x21, 0x28, 0x23, 0x24, 0x25, 0x2C, 0x2D, 0x2E, 0x2F]
  scattered[number]?.getD (number - scattered.length + 0x6E)

/-- A cell of two planes, shifted; two characters that the Roman set lacks are narrow. -/
def planeCell? (edition : Edition) (first second : UInt8) : Option (List Char) := do
  let (number, column) ← shiftedCell? first second
  if number ≤ lastRow then
    let row := number + firstRow
    if row == 0x21 && column == 0x40 then some ['\\']
    else if row == 0x22 && column == 0x32 then some ['~']
    else firstPlane? edition row column
  else (secondPlane? edition (secondPlaneRow (number - lastRow - 1)) column).map ([·])

/-- The cells of signs that a system has otherwise than the standard. -/
def departures : List (Nat × Nat × Char) :=
  [ (0x21, 0x41, '～'), (0x21, 0x42, '∥'), (0x21, 0x5D, '－'), (0x21, 0x71, '￠'),
    (0x21, 0x72, '￡'), (0x22, 0x4C, '￢') ]

/-- A single byte of the system; what is free there is of private use. -/
def systemSingle? (byte : UInt8) : Option Char :=
  if byte ≤ 0x80 then some (Char.ofNat byte.toNat)
  else if byte == 0xA0 then some '\uF8F0'
  else if 0xFD ≤ byte then some (Char.ofNat (0xF8F1 + (byte.toNat - 0xFD)))
  else narrowSyllable? byte

/-- The number of cells that share a first byte. -/
def cellsOfLead : Nat := 188

/-- The first bytes of cells that users of the system may fill. -/
def isUserLead (byte : UInt8) : Bool :=
  0xF0 ≤ byte && byte ≤ 0xF9

/-- A cell of the system, shifted. -/
def systemCell? (first second : UInt8) : Option (List Char) := do
  let (number, column) ← shiftedCell? first second
  let row := number + firstRow
  if isUserLead first then
    let place := number % 2 * 94 + (column - 0x21)
    some [Char.ofNat (0xE000 + cellsOfLead * (first.toNat - 0xF0) + place)]
  else
    match departures.find? fun (departing, place, _) => departing == row && place == column with
    | some (_, _, character) => some [character]
    | none =>
      (Chart.find?
          [Chart.japaneseSigns, Chart.japaneseSelection, Chart.japaneseExtension, Chart.japanese]
          row column).map ([·])

/-- The characters of the standard set, for a step. -/
def standard? (row column : Nat) : Option (List Char) :=
  (Chart.japanese.character? row column).map ([·])

/-- The supplementary set behind the second plane. -/
def otherPlane? (edition : Edition) (row column : Nat) : Option Char :=
  secondPlane? edition row column <|> Chart.japaneseSupplement.character? row column

/-- The Japanese encodings. -/
def all : List MultiByte :=
  [ { name := "euc_jp", aliases := ["eucjp", "ujis", "u_jis"]
      decode := decodeStateless (raisedStep standard? Chart.japaneseSupplement.character?) },
    { name := "euc_jisx0213", aliases := ["eucjisx0213"]
      decode := decodeStateless (raisedStep (firstPlane? .first) (otherPlane? .first)) },
    { name := "euc_jis_2004", aliases := ["jisx0213", "eucjis2004", "euc_jis2004"]
      decode := decodeStateless (raisedStep (firstPlane? .second) (otherPlane? .second)) },
    { name := "shift_jis"
      aliases := ["csshiftjis", "shiftjis", "sjis", "s_jis", "x_mac_japanese"]
      decode := decodeStateless (shiftedStep plainSingle? standardCell?) },
    { name := "shift_jisx0213", aliases := ["shiftjisx0213", "sjisx0213", "s_jisx0213"]
      decode := decodeStateless (shiftedStep romanSingle? (planeCell? .first)) },
    { name := "shift_jis_2004", aliases := ["shiftjis2004", "sjis_2004", "s_jis_2004"]
      decode := decodeStateless (shiftedStep romanSingle? (planeCell? .second)) },
    { name := "cp932", aliases := ["932", "ms932", "mskanji", "ms_kanji"]
      decode := decodeStateless (shiftedStep systemSingle? systemCell?) } ]

end Japanese
end Encoding
end ProtocolTypes
