/-!
# Places in a YAML text

The characters that are left of a text, with the line and the column where they
begin.  Five characters end a line; a byte order mark takes up no column.
-/

namespace ProtocolTypes
namespace Yaml

/-- A place in a text. -/
structure Cursor where
  left : List Char
  /-- As many characters as are left, or more. -/
  bound : Nat
  index : Nat := 0
  line : Nat := 0
  column : Nat := 0

/-- The characters that end a line. -/
def isBreak (character : Char) : Bool :=
  character == '\n' || character == '\r' || character == '\x85' ||
    character == '\u2028' || character == '\u2029'

namespace Cursor

/-- The character at the place, unless the text ends there. -/
def peek (cursor : Cursor) : Option Char := cursor.left.head?

/-- The character that many places on. -/
def peekAt (cursor : Cursor) (offset : Nat) : Option Char := cursor.left[offset]?

/-- Whether a character there would begin a new line, or the text ends. -/
def endsLine : Option Char → Bool
  | none => true
  | some character => isBreak character

/-- Whether a line ends there or a space stands there. -/
def endsWord : Option Char → Bool
  | some ' ' => true
  | other => endsLine other

/-- Whether a line ends there or a blank stands there. -/
def endsToken : Option Char → Bool
  | some '\t' => true
  | other => endsWord other

/-- The place after one character. -/
def next (cursor : Cursor) : Cursor :=
  match cursor.left with
  | [] => cursor
  | character :: rest =>
    let breaks := isBreak character && !(character == '\r' && rest.head? == some '\n')
    { left := rest
      bound := cursor.bound
      index := cursor.index + 1
      line := if breaks then cursor.line + 1 else cursor.line
      column :=
        if breaks then 0
        else if character == '\uFEFF' then cursor.column
        else cursor.column + 1 }

/-- The place after that many characters. -/
def advance (cursor : Cursor) : Nat → Cursor
  | 0 => cursor
  | count + 1 => cursor.next.advance count

/-- The characters of the class at the place, and the place after them. -/
def takeWhile (cursor : Cursor) (inClass : Char → Bool) : List Char × Cursor :=
  let taken := cursor.left.takeWhile inClass
  (taken, cursor.advance taken.length)

/-- The place after the characters of the class. -/
def dropWhile (cursor : Cursor) (inClass : Char → Bool) : Cursor :=
  (cursor.takeWhile inClass).2

/-- Whether the text goes on with that word. -/
def startsWith (cursor : Cursor) (word : String) : Bool :=
  word.toList.isPrefixOf cursor.left

/-- Whether a document marker stands at the place. -/
def atDocumentMarker (cursor : Cursor) : Bool :=
  (cursor.startsWith "---" || cursor.startsWith "...") && endsToken (cursor.peekAt 3)

/-- The line break at the place, if there is one, and the place after it.  Breaks of a
byte are read as a newline, the two wider ones as themselves. -/
def lineBreak? (cursor : Cursor) : Option (Char × Cursor) :=
  match cursor.left with
  | '\r' :: '\n' :: _ => some ('\n', cursor.advance 2)
  | character :: _ =>
    if character == '\n' || character == '\r' || character == '\x85' then
      some ('\n', cursor.next)
    else if isBreak character then some (character, cursor.next)
    else none
  | [] => none

/-- The place after the line break, if there is one. -/
def dropLineBreak (cursor : Cursor) : Cursor :=
  match cursor.lineBreak? with
  | some (_, after) => after
  | none => cursor

/-- The place after a comment, if there is one. -/
def dropComment (cursor : Cursor) : Cursor :=
  if cursor.peek == some '#' then cursor.dropWhile fun character => !isBreak character
  else cursor

@[simp]
theorem next_nil (bound index line column : Nat) :
    (Cursor.mk [] bound index line column).next = Cursor.mk [] bound index line column := rfl

theorem left_next (cursor : Cursor) : cursor.next.left = cursor.left.tail := by
  obtain ⟨left, bound, index, line, column⟩ := cursor
  cases left <;> rfl

@[simp]
theorem left_advance (cursor : Cursor) (count : Nat) :
    (cursor.advance count).left = cursor.left.drop count := by
  induction count generalizing cursor with
  | zero => rfl
  | succ count inductionHypothesis =>
    rw [advance, inductionHypothesis, left_next, List.drop_tail]

end Cursor
end Yaml
end ProtocolTypes
