import ProtocolTypes.Yaml.Token

/-!
# Plain scalars

A scalar without quotes.  It goes on over spaces and line breaks as long as the next
word is no comment, no document marker and, outside of flow collections, is indented
deeply enough.
-/

namespace ProtocolTypes
namespace Yaml

/-- What `scanPlain` reads. -/
structure PlainScalar where
  text : List Char
  /-- Whether a line break followed the last word. -/
  brokenOff : Bool

/-- Whether a plain word ends before these characters. -/
def endsPlainWord (inFlow : Bool) : List Char → Bool
  | [] => true
  | ':' :: rest =>
    Cursor.endsToken rest.head? ||
      (inFlow && rest.head?.any fun character => ",[]\x7b\x7d".toList.contains character)
  | character :: _ =>
    Cursor.endsToken (some character) ||
      (inFlow && ",?[]\x7b\x7d".toList.contains character)

/-- The length of the plain word at the start of the characters. -/
def plainWordLength (inFlow : Bool) : List Char → Nat
  | [] => 0
  | character :: rest =>
    if endsPlainWord inFlow (character :: rest) then 0
    else plainWordLength inFlow rest + 1

/-- The blank lines after a first break, up to a document marker. -/
def scanPlainBreaks : Nat → Cursor → Option (List Char) × Cursor
  | 0, cursor => (some [], cursor)
  | fuel + 1, cursor =>
    if cursor.peek == some ' ' then scanPlainBreaks fuel cursor.next
    else
      match cursor.lineBreak? with
      | some (character, after) =>
        if after.atDocumentMarker then (none, after)
        else
          let (rest, last) := scanPlainBreaks fuel after
          (rest.map (character :: ·), last)
      | none => (some [], cursor)

/-- The space between two words: what it stands for, which is nothing where the scalar
has to end, whether it held a line break, and the place after it. -/
def scanPlainSpace (cursor : Cursor) : List Char × Bool × Cursor :=
  let (spaces, start) := cursor.takeWhile (· == ' ')
  match start.lineBreak? with
  | some (first, after) =>
    if after.atDocumentMarker then ([], true, after)
    else
      match scanPlainBreaks after.bound after with
      | (some breaks, last) =>
        let folded :=
          if first != '\n' then first :: breaks
          else if breaks.isEmpty then [' ']
          else breaks
        (folded, true, last)
      | (none, last) => ([], true, last)
  | none => (spaces, false, start)

/-- The words of a plain scalar from a place on, after the space in front of it. -/
def scanPlainWords (inFlow : Bool) (indent : Nat) :
    Nat → Bool → List Char → Cursor → PlainScalar × Cursor
  | 0, brokenOff, _, cursor => (⟨[], brokenOff⟩, cursor)
  | fuel + 1, brokenOff, space, cursor =>
    if cursor.peek == some '#' then (⟨[], brokenOff⟩, cursor)
    else
      let length := plainWordLength inFlow cursor.left
      if length = 0 then (⟨[], brokenOff⟩, cursor)
      else
        let word := cursor.left.take length
        let (nextSpace, broke, after) := scanPlainSpace (cursor.advance length)
        if nextSpace.isEmpty || after.peek == some '#' ||
            (!inFlow && after.column < indent) then
          (⟨space ++ word, broke⟩, after)
        else
          let (rest, last) := scanPlainWords inFlow indent fuel broke nextSpace after
          (⟨space ++ word ++ rest.text, rest.brokenOff⟩, last)

/-- A plain scalar. -/
def scanPlain (inFlow : Bool) (indent : Nat) (cursor : Cursor) : PlainScalar × Cursor :=
  scanPlainWords inFlow indent (cursor.bound + 1) false [] cursor

end Yaml
end ProtocolTypes
