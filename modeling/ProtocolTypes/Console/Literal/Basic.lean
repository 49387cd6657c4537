import ProtocolTypes.Console.Literal.Token
import ProtocolTypes.Text.Lines

/-!
# Literals

Which texts are literals.  A literal is a number with or without a sign, a sum or
difference of a real and an imaginary number, quoted texts or quoted bytes side by side,
a constant, or a collection: a tuple in round brackets, a set or a dictionary in curly
ones.  Round brackets around one literal change nothing.  The members of a set and the
keys of a dictionary are neither sets nor dictionaries themselves.
-/

namespace ProtocolTypes
namespace Literal

/-- What a literal is, as far as it matters to what may stand around it. -/
inductive Value
  /-- A number without a sign. -/
  | number (isImaginary : Bool)
  /-- A real number with a sign. -/
  | signedReal
  /-- Brackets with nothing in them. -/
  | emptyRound
  /-- A name that is a value only with empty brackets behind it. -/
  | setName
  /-- Any other value, and whether it may be a key. -/
  | other (mayBeKey : Bool)
  deriving DecidableEq, Repr

namespace Value

/-- Whether the value may be a key or a member of a set. -/
def mayBeKey : Value → Bool
  | number _ => true
  | signedReal => true
  | emptyRound => true
  | setName => false
  | other mayBeKey => mayBeKey

/-- Whether there is a value. -/
def isWhole (value : Value) : Bool := value != setName

/-- A value with round brackets around it. -/
def inBrackets : Value → Value
  | emptyRound => other true
  | value => value

end Value

/-- What stands side by side on one level of brackets. -/
inductive Item
  | value (value : Value)
  | quoted (isBytes : Bool)
  | sign
  | comma
  | colon
  | lineEnd
  deriving DecidableEq, Repr

/-- The value that items are, without commas and colons. -/
def valueOf? : List Item → Option Value
  | [.value value] => some value
  | [.quoted _] => some (.other true)
  | [.sign, .value (.number isImaginary)] =>
    some (if isImaginary then .other true else .signedReal)
  | [.value (.number false), .sign, .value (.number true)] => some (.other true)
  | [.value .signedReal, .sign, .value (.number true)] => some (.other true)
  | [.sign, .value (.number false), .sign, .value (.number true)] => some (.other true)
  | [.value .setName, .value .emptyRound] => some (.other false)
  | _ => none

/-- The value that items are, if it is whole. -/
def wholeValueOf? (items : List Item) : Option Value :=
  (valueOf? items).filter Value.isWhole

/-- The members between commas; the last may have a comma behind it. -/
def membersOf (items : List Item) : List (List Item) :=
  let members := items.splitOn .comma
  if members.getLast? == some [] then members.dropLast else members

/-- The tuple of items, of which at least one is a comma. -/
def tupleOf? (items : List Item) : Option Value := do
  let members := membersOf items
  let values ← members.mapM wholeValueOf?
  if members.isEmpty then none else return .other (values.all Value.mayBeKey)

/-- The value of items that stand alone or in round brackets. -/
def listOf? (items : List Item) : Option Value :=
  if items.contains .comma then tupleOf? items else valueOf? items

/-- Whether items are a key and a value with a colon between them. -/
def isEntry (items : List Item) : Bool :=
  match items.splitOn .colon with
  | [key, value] =>
    (wholeValueOf? key).any Value.mayBeKey && (wholeValueOf? value).isSome
  | _ => false

/-- Whether items are a member of a set. -/
def isMember (items : List Item) : Bool :=
  (wholeValueOf? items).any Value.mayBeKey

/-- The value of items in brackets. -/
def collectionOf? (bracket : Bracket) (items : List Item) : Option Value :=
  match bracket with
  | .round =>
    if items.isEmpty then some .emptyRound else (listOf? items).map Value.inBrackets
  | .curly =>
    let members := membersOf items
    if items.isEmpty || !members.isEmpty && (members.all isEntry || members.all isMember) then
      some (.other false)
    else none

/-- How far a literal has been read. -/
structure Reading where
  /-- The items of the innermost brackets, the last one first. -/
  items : List Item := []
  /-- The brackets that are open, the innermost first, each with the items in front. -/
  outer : List (Bracket × List Item) := []

namespace Reading

/-- How deep brackets may be nested. -/
def maxDepth : Nat := 200

/-- The reading with one more item. -/
def push (reading : Reading) (item : Item) : Reading :=
  { reading with items := item :: reading.items }

/-- The reading with one more quoted text; it goes on with the one in front of it, if
both are texts or both are bytes. -/
def pushQuoted (reading : Reading) (isBytes : Bool) : Option Reading :=
  match reading.items with
  | .quoted before :: _ => if before == isBytes then some reading else none
  | _ => some (reading.push (.quoted isBytes))

/-- The reading with one more token. -/
def step? (reading : Reading) : Token → Option Reading
  | .number isImaginary => some (reading.push (.value (.number isImaginary)))
  | .quoted isBytes => reading.pushQuoted isBytes
  | .constant => some (reading.push (.value (.other true)))
  | .setName => some (reading.push (.value .setName))
  | .sign => some (reading.push .sign)
  | .comma => some (reading.push .comma)
  | .colon => some (reading.push .colon)
  | .lineEnd =>
    some (if reading.outer.isEmpty && !reading.items.isEmpty then reading.push .lineEnd
      else reading)
  | .opening bracket =>
    if reading.outer.length < maxDepth then
      some { items := [], outer := (bracket, reading.items) :: reading.outer }
    else none
  | .closing bracket =>
    match reading.outer with
    | (opened, before) :: outer =>
      if opened = bracket then
        (collectionOf? bracket reading.items.reverse).map fun value =>
          { items := .value value :: before, outer := outer }
      else none
    | [] => none

/-- The value of all that was read. -/
def value? (reading : Reading) : Option Value :=
  if reading.outer.isEmpty then
    (listOf? (reading.items.dropWhile (· == .lineEnd)).reverse).filter Value.isWhole
  else none

end Reading

/-- How far in the beginning of a line is. -/
structure Margin where
  /-- Whether there are blanks since the beginning or a form feed. -/
  isAway : Bool := false
  /-- Whether there were, where a backslash led on to another line. -/
  wasAway : Bool := false
  inComment : Bool := false

/-- Whether what a text says first is indented, behind a margin.  Lines that say nothing do
not count, and a form feed takes indentation back. -/
def isIndented (margin : Margin) : List Char → Bool
  | [] => false
  | '\n' :: rest => isIndented {} rest
  | '\\' :: '\n' :: rest =>
    if margin.inComment then isIndented {} rest
    else isIndented { margin with wasAway := margin.wasAway || margin.isAway } rest
  | character :: rest =>
    if margin.inComment then isIndented margin rest
    else if character = '#' then isIndented { inComment := true } rest
    else if character = '\x0c' then isIndented { margin with isAway := false } rest
    else if character = ' ' || character = '\t' then
      isIndented { margin with isAway := true } rest
    else margin.isAway || margin.wasAway

/-- Whether a text is a literal. -/
def isLiteral (text : List Char) : Bool :=
  let text := Text.unifyNewlineChars text
  !text.contains '\x00' && !isIndented {} text &&
    (((tokens? text).bind (·.foldlM Reading.step? {})).bind Reading.value?).isSome

end Literal
end ProtocolTypes
