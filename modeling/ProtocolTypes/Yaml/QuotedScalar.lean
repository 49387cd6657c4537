import ProtocolTypes.Number.Digits
import ProtocolTypes.Text.Surrogate
import ProtocolTypes.Yaml.Token

/-!
# Quoted scalars

A scalar between single or double quotes.  Line breaks inside are folded: one becomes
a space, each further one a newline, and the blanks around them vanish.  Between
double quotes a backslash begins an escape.
-/

namespace ProtocolTypes
namespace Yaml

/-- The characters that stand for another after a backslash. -/
def shortEscapes : List (Char × Char) :=
  [ ('0', '\x00'), ('a', '\x07'), ('b', '\x08'), ('t', '\t'), ('\t', '\t'), ('n', '\n'),
    ('v', '\x0b'), ('f', '\x0c'), ('r', '\r'), ('e', '\x1b'), (' ', ' '), ('"', '"'),
    ('\\', '\\'), ('/', '/'), ('N', '\x85'), ('_', '\xa0'), ('L', '\u2028'),
    ('P', '\u2029') ]

/-- The letters that a code in base sixteen follows, with its number of digits. -/
def codeEscapes : List (Char × Nat) := [('x', 2), ('u', 4), ('U', 8)]

/-- The character of a code.  Surrogates are kept, also the two of a pair; a code beyond
the characters is an accident. -/
def characterOfCode [StandIns] (code : Nat) : Except Accident Char :=
  if 0x80000000 ≤ code then .error .overflow
  else if 0x110000 ≤ code then .error .badValue
  else .ok (StandIns.ofPoint code)

/-- The line breaks after a first one, with the blanks around them dropped. -/
def scanFoldedBreaks : Nat → Cursor → Scan (List Char × Cursor)
  | 0, cursor => .ok ([], cursor)
  | fuel + 1, cursor =>
    if cursor.atDocumentMarker then refuse .unterminatedScalar
    else
      let start := cursor.dropWhile fun character => character == ' ' || character == '\t'
      match start.lineBreak? with
      | some (character, after) => do
        let (rest, last) ← scanFoldedBreaks fuel after
        return (character :: rest, last)
      | none => .ok ([], start)

/-- What a first line break and those after it stand for. -/
def foldBreaks (first : Char) (others : List Char) : List Char :=
  if first != '\n' then first :: others
  else if others.isEmpty then [' ']
  else others

variable [StandIns]

/-- An escape, after its backslash. -/
def scanEscape (cursor : Cursor) : Scan (List Char × Cursor) :=
  match cursor.left with
  | [] => refuse .badEscape
  | letter :: _ =>
    match shortEscapes.lookup letter with
    | some character => .ok ([character], cursor.next)
    | none =>
      match codeEscapes.lookup letter with
      | some length =>
        let digits := cursor.next.left.take length
        match Digits.naturalIn? 16 digits with
        | some code =>
          if digits.length < length then refuse .badEscape
          else
            match characterOfCode code with
            | .ok character => .ok ([character], cursor.next.advance length)
            | .error accident => .error (.accident accident)
        | none => refuse .badEscape
      | none =>
        match cursor.lineBreak? with
        | some (_, after) => scanFoldedBreaks after.bound after
        | none => refuse .badEscape

/-- The rest of a quoted scalar, after its opening quote. -/
def scanQuotedRest (double : Bool) : Nat → Cursor → Scan (List Char × Cursor)
  | 0, _ => refuse .unterminatedScalar
  | fuel + 1, cursor =>
    match cursor.left with
    | [] => refuse .unterminatedScalar
    | character :: rest =>
      if !double && character == '\'' && rest.head? == some '\'' then do
        let (others, last) ← scanQuotedRest double fuel (cursor.advance 2)
        return ('\'' :: others, last)
      else if character == (if double then '"' else '\'') then .ok ([], cursor.next)
      else if double && character == '\\' then do
        let (meant, after) ← scanEscape cursor.next
        let (others, last) ← scanQuotedRest double fuel after
        return (meant ++ others, last)
      else if character == ' ' || character == '\t' || isBreak character then do
        let (blanks, start) := cursor.takeWhile fun blank => blank == ' ' || blank == '\t'
        match start.lineBreak? with
        | some (first, afterBreak) =>
          let (breaks, after) ← scanFoldedBreaks (afterBreak.bound + 1) afterBreak
          let (others, last) ← scanQuotedRest double fuel after
          return (foldBreaks first breaks ++ others, last)
        | none =>
          let (others, last) ← scanQuotedRest double fuel start
          return (blanks ++ others, last)
      else do
        let (others, last) ← scanQuotedRest double fuel cursor.next
        return (character :: others, last)

/-- A quoted scalar. -/
def scanQuoted (double : Bool) (cursor : Cursor) : Scan (Token × Cursor) := do
  let (text, after) ← scanQuotedRest double (cursor.bound + 1) cursor.next
  return (.scalar (String.ofList text) false, after)

end Yaml
end ProtocolTypes
