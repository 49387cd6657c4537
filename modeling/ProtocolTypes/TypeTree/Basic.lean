/-!
# Type trees

The nested form of one entity's field list.  A leaf is a scalar or an opaque JSON
value; an object keeps its properties in the order of their first insertion; an
array has one element tree.  Every node carries a note: its documentation lines
and whether it may be left out.
-/

namespace ProtocolTypes

/-- The primitive kinds of a leaf. -/
inductive ScalarKind
  | string
  | number
  | boolean
  deriving DecidableEq, Repr

namespace ScalarKind

/-- How a declaration spells the kind. -/
def spelling : ScalarKind → String
  | string => "string"
  | number => "number"
  | boolean => "boolean"

/-- The kind of a spelling. -/
def ofSpelling? : String → Option ScalarKind
  | "string" => some string
  | "number" => some number
  | "boolean" => some boolean
  | _ => none

@[simp]
theorem ofSpelling?_spelling (kind : ScalarKind) :
    ofSpelling? kind.spelling = some kind := by
  cases kind <;> rfl

end ScalarKind

/-- What is said about a node besides its shape. -/
structure Note where
  /-- Whether the property may be left out. -/
  optional : Bool := false
  /-- The lines of its documentation. -/
  documentation : List String := []
  deriving DecidableEq, Repr

namespace Note

/-- The note of a node about which nothing is said. -/
def blank : Note := {}

end Note

/-- The shape of a value. -/
inductive TypeTree
  | scalar (kind : ScalarKind) (note : Note)
  | opaqueJson (note : Note)
  | object (properties : List (String × TypeTree)) (note : Note)
  | array (element : TypeTree) (note : Note)

namespace TypeTree

/-- The object without properties about which nothing is said. -/
def emptyObject : TypeTree := object [] Note.blank

instance : Inhabited TypeTree := ⟨emptyObject⟩

/-- The note at the root of the tree. -/
def note : TypeTree → Note
  | scalar _ note => note
  | opaqueJson note => note
  | object _ note => note
  | array _ note => note

/-- The same shape under another note. -/
def withNote (note : Note) : TypeTree → TypeTree
  | scalar kind _ => scalar kind note
  | opaqueJson _ => opaqueJson note
  | object properties _ => object properties note
  | array element _ => array element note

@[simp]
theorem note_withNote (note : Note) (tree : TypeTree) :
    (tree.withNote note).note = note := by
  cases tree <;> rfl

/-- The property of that name. -/
def property? (name : String) : List (String × TypeTree) → Option TypeTree
  | [] => none
  | (other, tree) :: rest => if other = name then some tree else property? name rest

/-- Sets a property: a name that is present keeps its place, a new one goes last. -/
def setProperty (name : String) (tree : TypeTree) :
    List (String × TypeTree) → List (String × TypeTree)
  | [] => [(name, tree)]
  | (other, old) :: rest =>
    if other = name then (name, tree) :: rest
    else (other, old) :: setProperty name tree rest

@[simp]
theorem property?_setProperty_self
    (name : String)
    (tree : TypeTree)
    (properties : List (String × TypeTree)) :
    property? name (setProperty name tree properties) = some tree := by
  induction properties with
  | nil => simp [setProperty, property?]
  | cons head rest inductionHypothesis =>
    obtain ⟨other, old⟩ := head
    by_cases same : other = name <;>
      simp [setProperty, property?, same, inductionHypothesis]

theorem property?_setProperty_of_ne
    (name other : String)
    (different : other ≠ name)
    (tree : TypeTree)
    (properties : List (String × TypeTree)) :
    property? other (setProperty name tree properties) = property? other properties := by
  induction properties with
  | nil => simp [setProperty, property?, Ne.symm different]
  | cons head rest inductionHypothesis =>
    obtain ⟨present, old⟩ := head
    by_cases same : present = name
    · subst same
      simp [setProperty, property?, Ne.symm different]
    · by_cases wanted : present = other
      · subst wanted
        simp [setProperty, property?, same]
      · simp [setProperty, property?, same, wanted, inductionHypothesis]

/-- The names of the properties in their order. -/
def propertyNames (properties : List (String × TypeTree)) : List String :=
  properties.map Prod.fst

/-- A short label for a shape, as diagnostics name it. -/
def describe : TypeTree → String
  | scalar kind _ => "scalar " ++ kind.spelling
  | opaqueJson _ => "opaque JSON value"
  | object properties _ =>
    let names := ", ".intercalate (propertyNames properties)
    "object (" ++ (if names.isEmpty then "no properties" else names) ++ ")"
  | array element _ => "array of " ++ element.describe

end TypeTree
end ProtocolTypes
