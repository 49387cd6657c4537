import ProtocolTypes.Text.Lines

/-!
# Field descriptors

One flat leaf field of an entity, as the tree builder takes it.  The path is a text
of segments between dots, in which the segment `*` stands for an element of the
enclosing array.
-/

namespace ProtocolTypes

/-- The three kinds of entity that become one declaration each. -/
inductive EntityKind
  | event
  | request
  | response
  deriving DecidableEq, Repr

namespace EntityKind

/-- How labels and options spell the kind. -/
def spelling : EntityKind → String
  | event => "event"
  | request => "request"
  | response => "response"

/-- The kind of a spelling. -/
def ofSpelling? : String → Option EntityKind
  | "event" => some event
  | "request" => some request
  | "response" => some response
  | _ => none

@[simp]
theorem ofSpelling?_spelling (kind : EntityKind) :
    ofSpelling? kind.spelling = some kind := by
  cases kind <;> rfl

end EntityKind

/-- The path segment that means an element of the enclosing array. -/
def wildcard : String := "*"

/-- One flat leaf field of an entity. -/
structure FieldDescriptor where
  path : String
  declaredType : String
  kind : EntityKind
  description : String := ""
  /-- Only requests make use of this and of the two texts below. -/
  optional : Option Bool := none
  restrictions : Option String := none
  defaultBehavior : Option String := none
  deriving DecidableEq, Repr

namespace FieldDescriptor

/-- The segments of the path, from the root down. -/
def segments (descriptor : FieldDescriptor) : List String :=
  Text.splitAt '.' descriptor.path

/-- The number of dots in the path. -/
def depth (descriptor : FieldDescriptor) : Nat :=
  descriptor.path.toList.count '.'

end FieldDescriptor
end ProtocolTypes
