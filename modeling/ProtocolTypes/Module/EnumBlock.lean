import ProtocolTypes.Accident
import ProtocolTypes.Protocol.Basic
import ProtocolTypes.TypeTree.Render

/-!
# Enum blocks

An enum section as an exported enum.  Every member stands under a documentation block
with its description and first version; its value is written as it was given, so an
expression stays one.
-/

namespace ProtocolTypes

namespace EnumMember

/-- The documentation of a member. -/
def documentation (member : EnumMember) : List String :=
  Text.splitAt '\n' member.description ++
    ["", "Initial OBS Version: " ++ member.initialVersion] ++
    (if member.deprecated then ["", "@deprecated"] else [])

/-- The lines of a member, unless its value cannot be written. -/
def lines? (member : EnumMember) : Option (List String) :=
  member.value.spelling?.map fun value =>
    [DocBlock.text member.documentation, member.identifier ++ " = " ++ value ++ ","]

end EnumMember

namespace EnumBlock

/-- The lines of an enum with that name and those members. -/
def lines? (name : String) (members : List EnumMember) : Option (List String) :=
  (members.mapM EnumMember.lines?).map fun lines =>
    ("export enum " ++ name ++ " \x7b") :: lines.flatten ++ ["\x7d"]

/-- The text of an enum with that name and those members. -/
def text (name : String) (members : List EnumMember) : Except Accident String :=
  match lines? name members with
  | some lines => .ok (Text.joinLines lines)
  | none => .error .badValue

end EnumBlock

namespace Protocol

/-- The block of the first enum section of that name. -/
def enumBlock (protocol : Protocol) (name : String) :
    Except (Interruption SchemaFailure) String :=
  match protocol.enum? name with
  | some enumSection => (EnumBlock.text name enumSection.members).mapError .accident
  | none => .error (.reported { fault := .missingEnum name })

end Protocol
end ProtocolTypes
