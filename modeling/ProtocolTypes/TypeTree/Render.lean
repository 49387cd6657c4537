import ProtocolTypes.Text.Blank
import ProtocolTypes.Text.Lines
import ProtocolTypes.TypeTree.Basic

/-!
# Rendering

The text of a type tree as a declaration.  An object without properties is widened
to `JsonObject`, an opaque value is `JsonValue`, and a member of an object stands
under its documentation block.  The text depends on nothing but the tree.
-/

namespace ProtocolTypes
namespace DocBlock

/-- A line of a documentation block, without its blank ending. -/
def line (text : String) : String :=
  Text.trimEnd (" * " ++ text)

/-- The lines of a documentation block. -/
def lines (documentation : List String) : List String :=
  "/**" :: documentation.map line ++ [" */"]

/-- A documentation block. -/
def text (documentation : List String) : String :=
  Text.joinLines (lines documentation)

end DocBlock

namespace TypeTree

/-- The declaration of an object whose shape nobody described. -/
def jsonObject : String := "JsonObject"

/-- The declaration of any JSON value. -/
def jsonValue : String := "JsonValue"

/-- The declaration of an array of such elements. -/
def arrayText (element : String) : String :=
  if element = jsonObject then jsonObject ++ "[]" else "Array<" ++ element ++ ">"

/-- What stands between a member's name and its type. -/
def separator (optional : Bool) : String :=
  if optional then "?: " else ": "

/-- The lines of an object's member, given the text of its type. -/
def memberLines (name : String) (note : Note) (declaration : String) : List String :=
  (if note.documentation.isEmpty then [] else [DocBlock.text note.documentation]) ++
    [name ++ separator note.optional ++ declaration ++ ";"]

mutual

/-- The declaration of a tree. -/
def render : TypeTree → String
  | scalar kind _ => kind.spelling
  | opaqueJson _ => jsonValue
  | array element _ => arrayText (render element)
  | object properties _ =>
    if properties.isEmpty then jsonObject
    else Text.joinLines ("\x7b" :: (renderMembers properties ++ ["\x7d"]))

/-- The members of an object. -/
def renderMembers : List (String × TypeTree) → List String
  | [] => []
  | (name, tree) :: rest => memberLines name tree.note (render tree) ++ renderMembers rest

end

end TypeTree
end ProtocolTypes
