import ProtocolTypes.TypeTree.Basic

/-!
# Faults of a field list

Why a field list has no type tree, or a document no module.  Each fault names the
field path that brought it up; `message` is its only wording.
-/

namespace ProtocolTypes

/-- A violated rule of the protocol schema. -/
inductive SchemaFault
  /-- The declared type lies outside the vocabulary. -/
  | unknownType (declared : String) (path : Option String)
  /-- A wildcard stands under something else than an array of objects. -/
  | misplacedWildcard (path : String) (found : TypeTree)
  /-- A wildcard ends the path. -/
  | trailingWildcard (path : String)
  /-- The path goes on below a node that is not an object. -/
  | blockedDescent (path segment : String) (found : TypeTree)
  /-- The leaf would hang below a node that is not an object. -/
  | blockedLeaf (path leaf : String) (found : TypeTree)
  /-- The document lacks an enum section that the module needs. -/
  | missingEnum (name : String)

namespace SchemaFault

/-- The wording of a fault. -/
def message : SchemaFault → String
  | unknownType declared path =>
    let place :=
      match path with
      | some path => if path.isEmpty then "" else " (field '" ++ path ++ "')"
      | none => ""
    "Unknown type: " ++ declared ++ place
  | misplacedWildcard path found =>
    "Wildcard in '" ++ path ++ "' requires an array of objects, found " ++ found.describe
  | trailingWildcard path =>
    "Trailing wildcard in '" ++ path ++
      "' is not supported; declare the parent with an Array<...> type instead"
  | blockedDescent path segment found =>
    "Cannot descend into '" ++ segment ++ "' of '" ++ path ++ "': parent is " ++
      found.describe ++ ", not an object"
  | blockedLeaf path leaf found =>
    "Cannot attach '" ++ leaf ++ "' of '" ++ path ++ "': parent is " ++
      found.describe ++ ", not an object"
  | missingEnum name => "Protocol has no enum named " ++ name

/-- The field path that brought the fault up. -/
def path : SchemaFault → Option String
  | unknownType _ path => path
  | misplacedWildcard path _ => some path
  | trailingWildcard path => some path
  | blockedDescent path _ _ => some path
  | blockedLeaf path _ _ => some path
  | missingEnum _ => none

end SchemaFault
end ProtocolTypes
