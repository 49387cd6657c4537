import ProtocolTypes.TypeTree.Basic

/-!
# Declared types

The names by which a field record declares the type of its leaf: five base names,
wrapped any number of times in `Array<` and `>`.  `DeclaredType.parse?` reads such a
name and `DeclaredType.text` writes it.
-/

namespace ProtocolTypes

/-- The base names of the vocabulary. -/
inductive BaseType
  | boolean
  | string
  | number
  | object
  | any
  deriving DecidableEq, Repr

namespace BaseType

/-- The name as a field record spells it. -/
def name : BaseType → String
  | boolean => "Boolean"
  | string => "String"
  | number => "Number"
  | object => "Object"
  | any => "Any"

/-- The base type of a name. -/
def ofName? (text : List Char) : Option BaseType :=
  [boolean, string, number, object, any].find? fun base => base.name.toList == text

/-- The tree of a base type, about which nothing is said yet. -/
def tree : BaseType → TypeTree
  | boolean => .scalar .boolean .blank
  | string => .scalar .string .blank
  | number => .scalar .number .blank
  | object => .emptyObject
  | any => .opaqueJson .blank

end BaseType

/-- A base type inside a number of array wrappers. -/
structure DeclaredType where
  /-- How many arrays are wrapped around the base. -/
  depth : Nat
  base : BaseType
  deriving DecidableEq, Repr

namespace DeclaredType

/-- The text between `Array<` and `>`, when it is so wrapped. -/
def unwrap? : List Char → Option (List Char)
  | 'A' :: 'r' :: 'r' :: 'a' :: 'y' :: '<' :: rest =>
    if rest.getLast? = some '>' then some rest.dropLast else none
  | _ => none

theorem length_lt_of_unwrap?
    (text inner : List Char)
    (unwraps : unwrap? text = some inner) :
    inner.length < text.length := by
  unfold unwrap? at unwraps
  split at unwraps
  · split at unwraps
    · simp only [Option.some.injEq] at unwraps
      subst unwraps
      simp only [List.length_dropLast, List.length_cons]
      omega
    · simp at unwraps
  · simp at unwraps

/-- Reads a declared type, wrapper by wrapper. -/
def parse? (text : List Char) : Option DeclaredType :=
  match _unwraps : unwrap? text with
  | some inner => (parse? inner).map fun declared => { declared with depth := declared.depth + 1 }
  | none => (BaseType.ofName? text).map fun base => ⟨0, base⟩
termination_by text.length
decreasing_by exact length_lt_of_unwrap? _ _ ‹_›

/-- Writes a declared type. -/
def text (declared : DeclaredType) : String :=
  String.join (List.replicate declared.depth "Array<") ++ declared.base.name ++
    String.join (List.replicate declared.depth ">")

/-- Wraps a tree in `depth` arrays about which nothing is said. -/
def wrap : Nat → TypeTree → TypeTree
  | 0, tree => tree
  | depth + 1, tree => .array (wrap depth tree) .blank

/-- The tree that a declared type stands for. -/
def tree (declared : DeclaredType) : TypeTree :=
  wrap declared.depth declared.base.tree

end DeclaredType
end ProtocolTypes
