import ProtocolTypes.Console.Cluster
import ProtocolTypes.Text.Blank

/-!
# Wrapping lines

A line that is wider than the screen is broken before a word.  Blanks stay with the
word before them, and those that reach over the edge are dropped.  A word that is
wider than the screen begins a line of its own and is cut wherever a line is full.
-/

namespace ProtocolTypes
namespace Wrap

/-- The distance between the places that a tab leads to. -/
def tabStop : Nat := 8

/-- The spaces that lead from a cell to the next place of a tab, or none from there. -/
def spacesToStop (cell : Nat) : List Char :=
  List.replicate ((tabStop - cell % tabStop) % tabStop) ' '

/-- Parts of a line that tabs stand between, with spaces in the place of the tabs: one
for each, and more up to the next place that a tab leads to. -/
def joinAtStops (cell : Nat) : List (List Char) → List Char
  | [] => []
  | [last] => last
  | part :: later =>
    let filled := part ++ [' ']
    let spaces := spacesToStop (cell + Cell.count filled)
    filled ++ spaces ++ joinAtStops (cell + Cell.count filled + spaces.length) later

/-- The line with spaces in the place of tabs. -/
def expandTabs (line : List Char) : List Char :=
  joinAtStops 0 (line.splitOn '\t')

/-- A word with the blanks after it, and what follows; blanks at the beginning count to
the first word. -/
def firstWord (text : List Char) : List Char × List Char :=
  let lead := text.takeWhile Text.isBlank
  let afterLead := text.dropWhile Text.isBlank
  let letters := afterLead.takeWhile fun character => !Text.isBlank character
  let afterLetters := afterLead.dropWhile fun character => !Text.isBlank character
  (lead ++ letters ++ afterLetters.takeWhile Text.isBlank,
    afterLetters.dropWhile Text.isBlank)

/-- The words of a text, at most that many; blanks alone are no word. -/
def wordsWithin : Nat → List Char → List (List Char)
  | 0, _ => []
  | bound + 1, text =>
    if text.all Text.isBlank then []
    else
      let (word, rest) := firstWord text
      word :: wordsWithin bound rest

/-- The words of a text, each with the blanks around it. -/
def words (text : List Char) : List (List Char) :=
  wordsWithin text.length text

/-- The pieces that fill a line each, of a piece that was begun and clusters behind it.
A last piece without any cells is dropped. -/
def piecesFrom (width : Nat) (piece : List Char) (cells : Nat) :
    List Cluster → List (List Char)
  | [] => if cells = 0 then [] else [piece]
  | cluster :: rest =>
    if width < cells + cluster.cells then
      piece :: piecesFrom width cluster.characters cluster.cells rest
    else piecesFrom width (piece ++ cluster.characters) (cells + cluster.cells) rest

/-- The pieces of a word that fill a line each. -/
def pieces (width : Nat) (word : List Char) : List (List Char) :=
  piecesFrom width [] 0 (Cluster.ofText word)

/-- Lines that are full, and the one that words are put on. -/
structure Page where
  /-- The full lines, the last one first. -/
  full : List (List Char) := []
  line : List Char := []
  /-- The cells that the words on the line take. -/
  cells : Nat := 0

namespace Page

/-- Whether nothing has been put on the page. -/
def isBlank (page : Page) : Bool := page.full.isEmpty && page.line.isEmpty

/-- Puts a piece on a line of its own; the first line of a page is one already. -/
def putOnNewLine (page : Page) (piece : List Char) : Page :=
  { full := if page.isBlank then [] else page.line :: page.full
    line := piece
    cells := Cell.count piece }

/-- Puts a word on the page. -/
def putWord (width : Nat) (page : Page) (word : List Char) : Page :=
  let letters := Cell.count (Text.dropEndWhile Text.isBlank word)
  if page.cells + letters ≤ width then
    { page with line := page.line ++ word, cells := page.cells + Cell.count word }
  else if width < letters then (pieces width word).foldl putOnNewLine page
  else page.putOnNewLine word

/-- The lines of the page. -/
def lines (page : Page) : List (List Char) := (page.line :: page.full).reverse

end Page

/-- Drops blanks at the end of a line that has more characters than the screen is wide,
so far as they are too many. -/
def dropExcessBlanks (width : Nat) (line : List Char) : List Char :=
  let blanks := (line.reverse.takeWhile Text.isBlank).length
  line.take (line.length - min blanks (line.length - width))

/-- The lines that a text without newlines is wrapped into; blanks alone stay one line. -/
def brokenLines (width : Nat) (text : List Char) : List (List Char) :=
  match words text with
  | [] => [text]
  | found => (found.foldl (Page.putWord width) {}).lines

/-- The lines of the screen for a line without newlines. -/
def lineRows (width : Nat) (line : List Char) : List (List Char) :=
  (brokenLines width (expandTabs line)).map fun row =>
    Cell.fit width (dropExcessBlanks width row)

/-- The text as it stands on a screen of that width. -/
def text (width : Nat) (text : String) : String :=
  let rows := (text.toList.splitOn '\n').flatMap (lineRows width)
  "\n".intercalate (rows.map String.ofList)

end Wrap
end ProtocolTypes
