import ProtocolTypes.Console.Emoji
import ProtocolTypes.Console.Literal.Basic
import ProtocolTypes.Console.Style
import ProtocolTypes.Text.WordCharacter

/-!
# Console markup

Tags in square brackets style the text between them.  A closing tag names the one that
it closes, or closes the innermost; one that closes nothing is an accident.  A tag that
begins with an at sign is an event, whose parameters are a literal.  A backslash in
front of a tag takes its meaning away.  Without colours, what is left of a text is its
characters outside the tags, with pictures in the places of their names.
-/

namespace ProtocolTypes
namespace Markup

/-- A tag: its name, and what follows the first equals sign, if there is one. -/
structure Tag where
  name : List Char
  parameters : Option (List Char) := none
  deriving DecidableEq, Repr

/-- The tag of what stands between the brackets. -/
def Tag.ofBody (body : List Char) : Tag :=
  { name := body.takeWhile (· != '=')
    parameters :=
      match body.dropWhile (· != '=') with
      | [] => none
      | _ :: parameters => some parameters }

/-- A part of a text with markup. -/
inductive Piece
  | plain (text : List Char)
  | tag (tag : Tag)
  deriving DecidableEq, Repr

/-- Whether a tag may begin with that character. -/
def beginsTag (character : Char) : Bool :=
  ('a' ≤ character && character ≤ 'z') || character == '#' || character == '/' ||
    character == '@'

/-- The inside of a bracket and what follows the bracket, for text behind its opening:
it ends at the first closing one, and no other may open before. -/
def inside? : List Char → Option (List Char × List Char)
  | [] => none
  | ']' :: rest => some ([], rest)
  | '[' :: _ => none
  | character :: rest => (inside? rest).map fun (body, after) => (character :: body, after)

/-- The body of the tag at the beginning of a text, and what follows. -/
def tag? : List Char → Option (List Char × List Char)
  | '[' :: first :: rest =>
    if beginsTag first then (inside? rest).map fun (body, after) => (first :: body, after)
    else none
  | _ => none

/-- Takes the backslash from an escaped bracket. -/
def unescape : List Char → List Char
  | [] => []
  | '\\' :: '[' :: rest => '[' :: unescape rest
  | character :: rest => character :: unescape rest

/-- The pieces of a tag behind that many backslashes: each two of them stand for one, and
one that is left over makes the tag plain. -/
def tagPieces (backslashes : Nat) (body : List Char) : List Piece :=
  (if backslashes < 2 then [] else [.plain (List.replicate (backslashes / 2) '\\')]) ++
    [if backslashes % 2 = 0 then .tag (Tag.ofBody body) else .plain ('[' :: body ++ [']'])]

/-- Plain characters that were collected in reverse, as a piece if there are any. -/
def collected (plain : List Char) : List Piece :=
  if plain.isEmpty then [] else [.plain (unescape plain.reverse)]

/-- The pieces of a text, by at most that many steps, with the plain characters in front
of it that no piece has yet, in reverse. -/
def piecesWithin : Nat → List Char → List Char → List Piece
  | 0, plain, text => collected (text.reverse ++ plain)
  | _, plain, [] => collected plain
  | bound + 1, plain, character :: rest =>
    let escapes := (character :: rest).takeWhile (· == '\\')
    let afterEscapes := (character :: rest).dropWhile (· == '\\')
    match tag? afterEscapes with
    | some (body, after) =>
      collected plain ++ tagPieces escapes.length body ++ piecesWithin bound [] after
    | none =>
      if escapes.isEmpty then piecesWithin bound (character :: plain) rest
      else piecesWithin bound (escapes ++ plain) afterEscapes

/-- The pieces of a text. -/
def pieces (text : List Char) : List Piece :=
  piecesWithin (text.length + 1) [] text

/-- A tag that is open, under the name that closes it. -/
structure OpenTag where
  name : String
  parameters : Option (List Char) := none
  deriving DecidableEq, Repr

/-- Whether the name of what handles an event may have a character. -/
def isHandlerCharacter (character : Char) : Bool :=
  Text.wordCharacters.contains character || character == '.'

/-- What the parameters of an event hand over: what stands in the brackets behind a name,
brackets included, nothing at all if there are none, and everything if the parameters are
of another shape. -/
def handedOver (parameters : List Char) : List Char :=
  let text := Text.stripWhile Text.isBlank parameters
  match text.dropWhile isHandlerCharacter with
  | [] => ['(', ')']
  | rest =>
    if rest.head? == some '(' && rest.getLast? == some ')' && !rest.contains '\n' then rest
    else text

namespace OpenTag

/-- Whether the tag is an event with parameters that mean nothing. -/
def isSpoiled (tag : OpenTag) : Bool :=
  tag.name.toList.head? == some '@' &&
    match tag.parameters with
    | some (first :: rest) => !Literal.isLiteral (handedOver (first :: rest))
    | _ => false

end OpenTag

/-- The tag that a closing one closes, the innermost of its name, and the others; a
closing tag of no name closes the innermost of all. -/
def closed? (name : List Char) (tags : List OpenTag) :
    Except Accident (Option (OpenTag × List OpenTag)) := do
  let wanted := Text.stripWhile Text.isBlank name
  if wanted.isEmpty then
    return tags.head?.map fun tag => (tag, tags.tail)
  else
    let closing ← Style.nameOf wanted
    return (tags.find? (·.name == closing)).map fun tag =>
      (tag, tags.eraseP (·.name == closing))

/-- The open tags after a closing one. -/
def close (name : List Char) (tags : List OpenTag) : Except Accident (List OpenTag) := do
  match ← closed? name tags with
  | some (tag, others) => if tag.isSpoiled then .error .badMarkup else return others
  | none => .error .badMarkup

/-- The characters of pieces outside the tags, with those tags open. -/
def charactersFrom (tags : List OpenTag) : List Piece → Except Accident (List Char)
  | [] => .ok []
  | .plain text :: rest => (charactersFrom tags rest).map (Emoji.replace text ++ ·)
  | .tag tag :: rest => do
    match tag.name with
    | '/' :: name => charactersFrom (← close name tags) rest
    | name =>
      let opened := { name := ← Style.nameOf name, parameters := tag.parameters }
      charactersFrom (opened :: tags) rest

/-- Makes sure that the style of a piece can be shown: the parameters of a tag are words
of its style, and may be an accident. -/
def checkPiece : Piece → Except Accident Unit
  | .plain _ => .ok ()
  | .tag tag =>
    match tag.name, tag.parameters with
    | '/' :: _, _ => .ok ()
    | _, none => .ok ()
    | name, some parameters => do
      let style ← Style.nameOf name
      let _ ← Style.ofText (style.toList ++ ' ' :: parameters)
      return ()

/-- Makes sure that all styles of a text can be shown. -/
def checkStyles (text : String) : Except Accident Unit :=
  (pieces text.toList).forM checkPiece

/-- The characters that a console drops wherever they stand. -/
def isDropped (character : Char) : Bool :=
  [7, 8, 11, 12, 13].contains character.toNat

/-- What a text with markup says without its tags. -/
def plainText (text : String) : Except Accident String :=
  (charactersFrom [] (pieces text.toList)).map fun characters =>
    String.ofList (characters.filter fun character => !isDropped character)

end Markup
end ProtocolTypes
