/-!
# Charts of characters

Large sets of characters lie in rows and columns, of which each has a number.  A cell that
is a point holds no character.
-/

namespace ProtocolTypes

/-- Characters by row and column. -/
structure Chart where
  firstRow : Nat
  firstColumn : Nat
  rows : Array (Array Char)

namespace Chart

/-- What marks a cell of no character. -/
def gap : Char := '.'

/-- The chart of rows, each from the first column on. -/
def ofRows (firstRow firstColumn : Nat) (rows : List String) : Chart :=
  { firstRow, firstColumn, rows := (rows.map fun row => row.toList.toArray).toArray }

/-- The character of a cell. -/
def character? (chart : Chart) (row column : Nat) : Option Char :=
  if row < chart.firstRow || column < chart.firstColumn then none
  else
    (chart.rows[row - chart.firstRow]?.bind (·[column - chart.firstColumn]?)).filter (· != gap)

/-- The character of a cell in the first of charts that has one. -/
def find? (charts : List Chart) (row column : Nat) : Option Char :=
  charts.findSome? fun chart => chart.character? row column

/-- The characters of a cell that holds more than one, by row and column. -/
def sequence? (sequences : List (Nat × Nat × String)) (row column : Nat) : Option (List Char) :=
  (sequences.find? fun (first, second, _) => first == row && second == column).map
    fun (_, _, sequence) => sequence.toList

/-- Cells whose characters follow one another, each row some characters after the one
before. -/
structure Stretch where
  firstRow : Nat
  lastRow : Nat
  firstColumn : Nat
  lastColumn : Nat
  stride : Nat
  /-- The point of the first cell. -/
  point : Nat

/-- The character of a cell in a stretch. -/
def Stretch.character? (stretch : Stretch) (row column : Nat) : Option Char :=
  if stretch.firstRow ≤ row && row ≤ stretch.lastRow &&
      stretch.firstColumn ≤ column && column ≤ stretch.lastColumn then
    some (Char.ofNat
      (stretch.point + stretch.stride * (row - stretch.firstRow) +
        (column - stretch.firstColumn)))
  else none

end Chart
end ProtocolTypes
