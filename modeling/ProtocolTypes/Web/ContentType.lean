import ProtocolTypes.Text.Blank
import ProtocolTypes.Text.Lines
import ProtocolTypes.Web.ParameterSection

/-!
# Content types

What a server says of the content that it sends.  Parameters stand behind semicolons, and
a value may be quoted; one of them names the encoding of the text.
-/

namespace ProtocolTypes
namespace ContentType

/-- The number of quotes that no backslash stands in front of. -/
def quoteCount : List Char → Nat
  | '\\' :: '"' :: rest => quoteCount rest
  | '"' :: rest => quoteCount rest + 1
  | _ :: rest => quoteCount rest
  | [] => 0

/-- The pieces between semicolons, of which those within quotes are no ends; `held` is the
piece so far that a quote is open in. -/
def joinQuoted (held : Option String) : List String → List String
  | [] => held.toList
  | piece :: rest =>
    let joined :=
      match held with
      | some before => before ++ ";" ++ piece
      | none => piece
    if quoteCount joined.toList % 2 = 1 then joinQuoted (some joined) rest
    else joined :: joinQuoted none rest

/-- The characters in quotes, with what backslashes keep. -/
def unescape : List Char → List Char
  | '\\' :: '\\' :: rest => '\\' :: unescape rest
  | '\\' :: '"' :: rest => '"' :: unescape rest
  | character :: rest => character :: unescape rest
  | [] => []

/-- A value without the quotes or angle brackets around it. -/
def unquote (text : List Char) : List Char :=
  match text with
  | '"' :: rest =>
    if rest.getLast? == some '"' then unescape rest.dropLast else text
  | '<' :: rest => if rest.getLast? == some '>' then rest.dropLast else text
  | _ => text

/-- The name and the value of a parameter. -/
def parameter (piece : String) : List Char × List Char :=
  let trim (text : List Char) : List Char := Text.stripWhile Text.isBlank text
  let written := piece.toList
  let name := trim (written.takeWhile (· != '='))
  let value := unquote (trim (written.dropWhile (· != '=')).tail)
  (name.map Char.toLower, value)

/-- The parameters of a content type, the type itself in front of them. -/
def parameters (contentType : String) : List (List Char × List Char) :=
  (joinQuoted none (Text.splitAt ';' contentType)).map parameter

/-- The sections among parameters; the type itself is none. -/
def sectionsOf (parameters : List (List Char × List Char)) : List ParameterSection :=
  parameters.tail.filterMap fun (name, value) => ParameterSection.ofWritten? name value

/-- The value of a parameter: one in sections counts if there is no other of its name. -/
def value? [StandIns] (contentType name : String) : Except Accident (Option (List Char)) :=
  let written := parameters contentType
  let sections := sectionsOf written
  if !ParameterSection.canBeOrdered sections then .error .wrongType
  else
    match written.lookup name.toList with
    | some value => .ok (some value)
    | none =>
      match sections.filter (·.name == name.toList) with
      | [] => .ok none
      | found => .ok (some (ParameterSection.joinedValue found))

/-- The encoding of the content; where it is not told or not known, it is Unicode in units
of one byte.  A name is ASCII. -/
def encoding [StandIns] (contentType : String) : Except Accident Encoding :=
  (value? contentType "charset").map fun value =>
    let name := value.filter (·.all fun character => character.toNat < 0x80)
    ((name.map String.ofList).bind Encoding.ofName?).getD .bytes

end ContentType
end ProtocolTypes
