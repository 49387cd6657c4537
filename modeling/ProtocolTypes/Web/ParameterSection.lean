import ProtocolTypes.Encoding.Basic
import ProtocolTypes.Number.Digits

/-!
# Sections of parameters

A parameter of a header may be written in sections, whose names end in an asterisk and a
number.  One more asterisk says that characters are written as bytes in hexadecimal
digits, and then the first section begins with the name of an encoding and of a language,
each with an apostrophe behind it.
-/

namespace ProtocolTypes

/-- A section of a parameter. -/
structure ParameterSection where
  name : List Char
  number : Option Nat
  value : List Char
  /-- Whether bytes are written in hexadecimal digits. -/
  isEncoded : Bool
  deriving DecidableEq, Repr

namespace ParameterSection

/-- Whether the name of a parameter in sections may have a character. -/
def isNameCharacter (character : Char) : Bool :=
  character.isAlphanum || character == '_'

/-- The section with that name as it is written, if that is the name of one. -/
def ofWritten? (written value : List Char) : Option ParameterSection :=
  let name := written.takeWhile isNameCharacter
  if name.isEmpty then none
  else
    match written.dropWhile isNameCharacter with
    | ['*'] => some { name := name, number := none, value := value, isEncoded := true }
    | '*' :: rest =>
      let digits := rest.takeWhile Char.isDigit
      let ending := rest.dropWhile Char.isDigit
      if digits.isEmpty || !(ending == [] || ending == ['*']) then none
      else
        some
          { name := name, number := some (Digits.natural digits), value := value
            isEncoded := ending == ['*'] }
    | _ => none

/-- Whether a text is in front of another one, or the same. -/
def isInFront : List Char → List Char → Bool
  | [], _ => true
  | _ :: _, [] => false
  | first :: rest, other :: later =>
    first.toNat < other.toNat || (first == other && isInFront rest later)

/-- Whether a section stands in front of another one: by number, then by value. -/
def precedes (first second : ParameterSection) : Bool :=
  if first.number != second.number then first.number.getD 0 < second.number.getD 0
  else if first.value != second.value then isInFront first.value second.value
  else !first.isEncoded || second.isEncoded

/-- Whether sections of one name can be put in order: all have numbers, or none has. -/
def canBeOrdered (sections : List ParameterSection) : Bool :=
  sections.all fun first => sections.all fun second =>
    first.name != second.name || first.number.isSome == second.number.isSome

/-- The characters of bytes in hexadecimal digits behind percent signs, and the others. -/
def percentDecoded : List Char → List Char
  | '%' :: high :: low :: rest =>
    match Digits.naturalIn? 16 [high, low] with
    | some byte => Char.ofNat byte :: percentDecoded rest
    | none => '%' :: percentDecoded (high :: low :: rest)
  | character :: rest => character :: percentDecoded rest
  | [] => []

/-- The characters of a section. -/
def characters (part : ParameterSection) : List Char :=
  if part.isEncoded then percentDecoded part.value else part.value

/-- The value behind two apostrophes, and the name of the encoding in front of them; all is
the value where there are not so many. -/
def splitEncoding (text : List Char) : List Char × List Char :=
  match text.splitOn '\'' with
  | encoding :: _ :: value :: more => (encoding, ['\''].intercalate (value :: more))
  | _ => ([], text)

/-- What a value means in an encoding of that name, or the value itself if it means
nothing; without a name, the encoding is ASCII. -/
def meaning [StandIns] (encoding value : List Char) : List Char :=
  let name := if encoding.isEmpty then "ascii" else String.ofList encoding
  match Encoding.ofName? name with
  | some known =>
    match known.decodeWhole (value.map fun character => character.toNat.toUInt8) with
    | .ok text => if text.contains replacementCharacter then value else text
    | .error _ => value
  | none => value

/-- The value of a parameter in sections. -/
def joinedValue [StandIns] (sections : List ParameterSection) : List Char :=
  let ordered := sections.mergeSort precedes
  let text := ordered.flatMap characters
  if ordered.any isEncoded then
    let (encoding, value) := splitEncoding text
    meaning encoding value
  else text

end ParameterSection
end ProtocolTypes
