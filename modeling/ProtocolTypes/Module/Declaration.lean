import ProtocolTypes.Failure
import ProtocolTypes.Log
import ProtocolTypes.Protocol.Basic
import ProtocolTypes.TypeTree.Render

/-!
# Declarations

An entity is one unit that gets a declaration of its own: the payload of an event,
the parameters of a request, or the response to one.  An entity without fields never
reaches the tree builder: its declaration is the marker of its kind.
-/

namespace ProtocolTypes

/-- One unit with a declaration. -/
structure Entity where
  kind : EntityKind
  name : String
  fields : List FieldRecord

/-- The outcome of compiling an entity, with what was noted on the way. -/
structure Compilation where
  records : List LogRecord := []
  result : Except SchemaFailure String

namespace EntityKind

/-- The declaration of an entity without fields. -/
def emptyMarker : EntityKind → String
  | event => "undefined"
  | request => "never"
  | response => "undefined"

end EntityKind

namespace Entity

/-- How failures name the entity. -/
def label (entity : Entity) : String :=
  entity.kind.spelling ++ " " ++ entity.name

/-- The descriptors of the entity's fields, in their order. -/
def descriptors (entity : Entity) : List FieldDescriptor :=
  entity.fields.map (FieldRecord.descriptor entity.kind)

/-- The growth of the entity's type tree. -/
def growth (entity : Entity) : Growth :=
  TypeTree.build entity.descriptors

/-- The declaration of the entity, or the failure with its label. -/
def declaration (entity : Entity) : Except SchemaFailure String :=
  if entity.fields.isEmpty then .ok entity.kind.emptyMarker
  else
    match entity.growth.result with
    | .ok tree => .ok tree.render
    | .error fault => .error { fault := fault, entity := some entity.label }

/-- What is noted while the entity is compiled. -/
def records (entity : Entity) : List LogRecord :=
  if entity.fields.isEmpty then []
  else
    .compiling entity.kind entity.name entity.fields.length ::
      entity.growth.steps.map .growth

/-- The compilation of the entity. -/
def compile (entity : Entity) : Compilation :=
  { records := entity.records, result := entity.declaration }

@[simp]
theorem declaration_of_fields_nil
    (kind : EntityKind)
    (name : String) :
    (Entity.mk kind name []).declaration = .ok kind.emptyMarker := rfl

end Entity

namespace Protocol

/-- The entities of one kind, in document order. -/
def entities (protocol : Protocol) : EntityKind → List Entity
  | .event => protocol.events.map fun event => ⟨.event, event.name, event.payload⟩
  | .request => protocol.requests.map fun request => ⟨.request, request.name, request.parameters⟩
  | .response => protocol.requests.map fun request => ⟨.response, request.name, request.responses⟩

/-- The first entity of that kind and name. -/
def entity? (protocol : Protocol) (kind : EntityKind) (name : String) : Option Entity :=
  (protocol.entities kind).find? fun entity => entity.name == name

end Protocol
end ProtocolTypes
