import ProtocolTypes.Yaml.Word

/-!
# Block scalars

A scalar of whole lines under a header.  In literal style the line breaks stay; in
folded style a single one between two lines that begin with text becomes a space.
The header may set the indentation, and what becomes of the breaks at the end.
-/

namespace ProtocolTypes
namespace Yaml

/-- What becomes of the line breaks at the end of a block scalar. -/
inductive Chomping
  /-- All of them go. -/
  | strip
  /-- The first one stays. -/
  | clip
  /-- All of them stay. -/
  | keep
  deriving DecidableEq, Repr

/-- The header of a block scalar. -/
structure BlockHeader where
  chomping : Chomping := .clip
  /-- The indentation relative to the block around, if it is given. -/
  increment : Option Nat := none

/-- The chomping that a sign stands for. -/
def chompingOf? : Option Char → Option Chomping
  | some '+' => some .keep
  | some '-' => some .strip
  | _ => none

/-- The indentation that a digit stands for. -/
def incrementOf? (character : Option Char) : Option Nat :=
  (character.filter Char.isDigit).map fun digit => digit.toNat - '0'.toNat

/-- The marks of a header, in either order, and the place after them. -/
def scanHeaderMarks (cursor : Cursor) : BlockHeader × Cursor :=
  match chompingOf? cursor.peek, incrementOf? cursor.peek with
  | some chomping, _ =>
    match incrementOf? cursor.next.peek with
    | some increment => (⟨chomping, some increment⟩, cursor.advance 2)
    | none => (⟨chomping, none⟩, cursor.next)
  | none, some increment =>
    match chompingOf? cursor.next.peek with
    | some chomping => (⟨chomping, some increment⟩, cursor.advance 2)
    | none => (⟨.clip, some increment⟩, cursor.next)
  | none, none => ({}, cursor)

/-- The header, after the indicator, and the place at the next line. -/
def scanBlockHeader (cursor : Cursor) : Scan (BlockHeader × Cursor) := do
  let (header, after) := scanHeaderMarks cursor
  if header.increment == some 0 || !Cursor.endsWord after.peek then refuse .badBlockHeader
  else
    let start ← scanLineRest .badBlockHeader after
    return (header, start)

/-- The blank lines in front of the text, the deepest column among them, and the place
after them. -/
def scanLeadingLines : Nat → Nat → Cursor → List Char × Nat × Cursor
  | 0, deepest, cursor => ([], deepest, cursor)
  | fuel + 1, deepest, cursor =>
    if cursor.peek == some ' ' then
      let after := cursor.next
      scanLeadingLines fuel (max deepest after.column) after
    else
      match cursor.lineBreak? with
      | some (character, after) =>
        let (rest, deepestRest, last) := scanLeadingLines fuel deepest after
        (character :: rest, deepestRest, last)
      | none => ([], deepest, cursor)

/-- The place after spaces up to that column. -/
def dropIndent (column : Nat) : Nat → Cursor → Cursor
  | 0, cursor => cursor
  | fuel + 1, cursor =>
    if cursor.column < column && cursor.peek == some ' ' then
      dropIndent column fuel cursor.next
    else cursor

/-- The blank lines between two lines of text, and the place after them. -/
def scanBlankLines (column : Nat) : Nat → Cursor → List Char × Cursor
  | 0, cursor => ([], cursor)
  | fuel + 1, cursor =>
    let start := dropIndent column column cursor
    match start.lineBreak? with
    | some (character, after) =>
      let (rest, last) := scanBlankLines column fuel after
      (character :: rest, last)
    | none => ([], start)

/-- Whether a line of text begins with text and not with a blank. -/
def beginsWithText (cursor : Cursor) : Bool :=
  !(cursor.peek == some ' ' || cursor.peek == some '\t')

/-- The breaks at the end of a block scalar that stay. -/
def chomp (chomping : Chomping) (first : List Char) (others : List Char) : List Char :=
  match chomping with
  | .strip => []
  | .clip => first
  | .keep => first ++ others

/-- The lines of text, after the blank lines in front of them. -/
def scanTextLines (folded : Bool) (chomping : Chomping) (column : Nat) :
    Nat → List Char → Cursor → List Char × Cursor
  | 0, _, cursor => ([], cursor)
  | fuel + 1, before, cursor =>
    let (line, lineEnd) := cursor.takeWhile fun character => !isBreak character
    let (lineBreak, afterBreak) :=
      match lineEnd.lineBreak? with
      | some (character, after) => ([character], after)
      | none => ([], lineEnd)
    let (breaks, start) := scanBlankLines column (afterBreak.bound + 1) afterBreak
    if start.column = column && start.peek.isSome then
      let folds :=
        folded && lineBreak == ['\n'] && beginsWithText cursor && beginsWithText start
      let between :=
        if folds then (if breaks.isEmpty then [' '] else []) else lineBreak
      let (rest, last) := scanTextLines folded chomping column fuel breaks start
      (before ++ line ++ between ++ rest, last)
    else (before ++ line ++ chomp chomping lineBreak breaks, start)

/-- A block scalar inside a block of that indentation. -/
def scanBlock (folded : Bool) (indent : Nat) (cursor : Cursor) : Scan (Token × Cursor) := do
  let (header, headerEnd) ← scanBlockHeader cursor.next
  let least := max indent 1
  let (column, breaks, start) :=
    match header.increment with
    | some increment =>
      let column := least + increment - 1
      let (breaks, start) := scanBlankLines column (headerEnd.bound + 1) headerEnd
      (column, breaks, start)
    | none =>
      let (breaks, deepest, start) := scanLeadingLines headerEnd.bound 0 headerEnd
      (max least deepest, breaks, start)
  let (text, after) :=
    if start.column = column && start.peek.isSome then
      scanTextLines folded header.chomping column (start.bound + 1) breaks start
    else (chomp header.chomping [] breaks, start)
  return (.scalar (String.ofList text) false, after)

end Yaml
end ProtocolTypes
