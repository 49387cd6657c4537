import ProtocolTypes.Number.Digits
import ProtocolTypes.Yaml.Token

/-!
# Names, tags and directives

The tokens that are a single word: anchors and aliases, tags with their handle and
suffix, and the directives in front of a document.
-/

namespace ProtocolTypes
namespace Yaml

/-- The characters of a name. -/
def isNameCharacter (character : Char) : Bool :=
  character.isAlphanum || character == '-' || character == '_'

/-- What may follow a name besides a blank. -/
def endsName : Option Char → Bool
  | some character =>
    "?:,]\x7d%@\x60".toList.contains character || Cursor.endsToken (some character)
  | none => true

/-- The name of an anchor or alias, after its indicator. -/
def scanName (cursor : Cursor) : Scan (String × Cursor) :=
  let (name, after) := cursor.next.takeWhile isNameCharacter
  if name.isEmpty || !endsName after.peek then refuse .badName
  else .ok (String.ofList name, after)

/-- A tag handle: a mark, alone or before a name that another mark ends. -/
def scanHandle (cursor : Cursor) : Scan (String × Cursor) :=
  if cursor.peek != some '!' then refuse .badTag
  else if cursor.peekAt 1 == some ' ' then .ok ("!", cursor.next)
  else
    let (name, after) := cursor.next.takeWhile isNameCharacter
    if after.peek == some '!' then
      .ok (String.ofList ('!' :: name ++ ['!']), after.next)
    else refuse .badTag

/-- The characters of a tag's address. -/
def isAddressCharacter (character : Char) : Bool :=
  character.isAlphanum || "-;/?:@&=+$,_.!~*'()[]".toList.contains character

/-- The bytes of a run of escapes in an address. -/
def scanEscapedBytes : Nat → Cursor → Scan (List UInt8 × Cursor)
  | 0, cursor => .ok ([], cursor)
  | fuel + 1, cursor =>
    match cursor.left with
    | '%' :: high :: low :: _ =>
      match Digits.naturalIn? 16 [high, low] with
      | some byte => do
        let (bytes, after) ← scanEscapedBytes fuel (cursor.advance 3)
        return (byte.toUInt8 :: bytes, after)
      | none => refuse .badTag
    | '%' :: _ => refuse .badTag
    | _ => .ok ([], cursor)

/-- The address of a tag, with its escapes read as encoded characters. -/
def scanAddressParts : Nat → Cursor → Scan (List Char × Cursor)
  | 0, cursor => .ok ([], cursor)
  | fuel + 1, cursor =>
    if cursor.peek == some '%' then do
      let (bytes, after) ← scanEscapedBytes cursor.bound cursor
      match String.fromUTF8? bytes.toByteArray with
      | some text =>
        let (rest, last) ← scanAddressParts fuel after
        return (text.toList ++ rest, last)
      | none => refuse .badTag
    else
      let (taken, after) := cursor.takeWhile isAddressCharacter
      if taken.isEmpty then .ok ([], cursor)
      else do
        let (rest, last) ← scanAddressParts fuel after
        return (taken ++ rest, last)

/-- The address of a tag, which is not empty. -/
def scanAddress (cursor : Cursor) : Scan (String × Cursor) := do
  let (address, after) ← scanAddressParts (cursor.bound + 1) cursor
  if after.index == cursor.index then refuse .badTag
  else return (String.ofList address, after)

/-- The handle and the suffix of a tag. -/
def scanTagParts (cursor : Cursor) : Scan ((Option String × String) × Cursor) :=
  if cursor.peekAt 1 == some '<' then do
    let (address, after) ← scanAddress (cursor.advance 2)
    if after.peek == some '>' then return ((none, address), after.next) else refuse .badTag
  else if Cursor.endsToken (cursor.peekAt 1) then
    .ok ((none, "!"), cursor.next)
  else
    let word := cursor.left.tail.takeWhile fun character =>
      !Cursor.endsWord (some character)
    if word.contains '!' then do
      let (handle, afterHandle) ← scanHandle cursor
      let (suffix, after) ← scanAddress afterHandle
      return ((some handle, suffix), after)
    else do
      let (suffix, after) ← scanAddress cursor.next
      return ((some "!", suffix), after)

/-- A tag. -/
def scanTag (cursor : Cursor) : Scan (Token × Cursor) := do
  let ((handle, suffix), after) ← scanTagParts cursor
  if Cursor.endsWord after.peek then return (.tag handle suffix, after)
  else refuse .badTag

/-- The place after spaces, as far as there are any. -/
def dropSpaces (cursor : Cursor) : Cursor :=
  cursor.dropWhile (· == ' ')

/-- The place at the next line, if nothing but a comment is left of this one. -/
def scanLineRest (fault : Fault) (cursor : Cursor) : Scan Cursor :=
  let after := (dropSpaces cursor).dropComment
  if Cursor.endsLine after.peek then .ok after.dropLineBreak else refuse fault

/-- The number in a version; too many digits of it are an accident. -/
def scanVersionNumber (cursor : Cursor) : Scan (Nat × Cursor) :=
  let (digits, after) := cursor.takeWhile Char.isDigit
  if digits.isEmpty then refuse .badDirective
  else if Digits.maxDecimalDigits < digits.length then .error (.accident .badValue)
  else .ok (Digits.natural digits, after)

/-- The value of a version directive. -/
def scanVersion (cursor : Cursor) : Scan (Token × Cursor) := do
  let (major, afterMajor) ← scanVersionNumber (dropSpaces cursor)
  if afterMajor.peek != some '.' then refuse .badDirective
  else
    let (_, after) ← scanVersionNumber afterMajor.next
    if Cursor.endsWord after.peek then return (.versionDirective major, after)
    else refuse .badDirective

/-- The value of a tag directive. -/
def scanHandleDefinition (cursor : Cursor) : Scan (Token × Cursor) := do
  let (handle, afterHandle) ← scanHandle (dropSpaces cursor)
  if afterHandle.peek != some ' ' then refuse .badDirective
  else
    let (expansion, after) ← scanAddress (dropSpaces afterHandle)
    if Cursor.endsWord after.peek then return (.tagDirective handle expansion, after)
    else refuse .badDirective

/-- A directive up to the end of its line. -/
def scanDirective (cursor : Cursor) : Scan (Token × Cursor) := do
  let (name, afterName) := cursor.next.takeWhile isNameCharacter
  if name.isEmpty || !Cursor.endsWord afterName.peek then refuse .badDirective
  else
    let (token, afterValue) ←
      if name == "YAML".toList then scanVersion afterName
      else if name == "TAG".toList then scanHandleDefinition afterName
      else
        pure (Token.reservedDirective,
          afterName.dropWhile fun character => !isBreak character)
    let after ← scanLineRest .badDirective afterValue
    return (token, after)

end Yaml
end ProtocolTypes
