import ProtocolTypes.Protocol.Descriptor
import ProtocolTypes.TypeTree.Declared
import ProtocolTypes.TypeTree.Fault

/-!
# Leaves

What one field record puts at the end of its path: the tree of its declared type
under a note made from its texts.  Only a request's record can make its leaf
optional or add restriction and default lines.
-/

namespace ProtocolTypes
namespace TypeTree

/-- The tree of a declared type's name. -/
def ofDeclaredType
    (declared : String)
    (path : Option String) :
    Except SchemaFault TypeTree :=
  match DeclaredType.parse? declared.toList with
  | some declaredType => .ok declaredType.tree
  | none => .error (.unknownType declared path)

end TypeTree

namespace FieldDescriptor

/-- A documentation line with that tag, for a text that says something. -/
def taggedLine (tag : String) : Option String → List String
  | some text => if text.isEmpty then [] else [tag ++ " " ++ text]
  | none => []

/-- The lines of a description; an empty one has none. -/
def descriptionLines (description : String) : List String :=
  if description.isEmpty then [] else Text.splitAt '\n' description

/-- The note of the descriptor's leaf. -/
def leafNote (descriptor : FieldDescriptor) : Note :=
  match descriptor.kind with
  | .request =>
    { optional := descriptor.optional.getD false
      documentation :=
        descriptionLines descriptor.description ++
          taggedLine "@restrictions" descriptor.restrictions ++
          taggedLine "@defaultValue" descriptor.defaultBehavior }
  | .event => { documentation := descriptionLines descriptor.description }
  | .response => { documentation := descriptionLines descriptor.description }

/-- The leaf of a descriptor. -/
def leaf (descriptor : FieldDescriptor) : Except SchemaFault TypeTree :=
  (TypeTree.ofDeclaredType descriptor.declaredType (some descriptor.path)).map
    (TypeTree.withNote descriptor.leafNote)

end FieldDescriptor
end ProtocolTypes
