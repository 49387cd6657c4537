import ProtocolTypes.Module.Source
import ProtocolTypes.Protocol.Check

/-!
# Extra entries

The entries that a record keeps but does not know have no part in the module.
-/

namespace ProtocolTypes

namespace EnumMember

/-- The member with none of its extra entries. -/
def withoutExtras (member : EnumMember) : EnumMember := { member with extras := [] }

@[simp]
theorem lines?_withoutExtras (member : EnumMember) :
    member.withoutExtras.lines? = member.lines? := rfl

end EnumMember

namespace EnumSection

/-- The section with no extra entries, in its members neither. -/
def withoutExtras (enumSection : EnumSection) : EnumSection :=
  { enumSection with
    members := enumSection.members.map EnumMember.withoutExtras
    extras := [] }

@[simp]
theorem name_withoutExtras (enumSection : EnumSection) :
    enumSection.withoutExtras.name = enumSection.name := rfl

end EnumSection

namespace FieldRecord

/-- The field record with none of its extra entries. -/
def withoutExtras (field : FieldRecord) : FieldRecord := { field with extras := [] }

/-- The descriptor of a field has nothing of its extra entries. -/
@[simp]
theorem descriptor_withoutExtras (kind : EntityKind) (field : FieldRecord) :
    field.withoutExtras.descriptor kind = field.descriptor kind := by
  cases kind <;> rfl

end FieldRecord

namespace Request

/-- The request with no extra entries, in its fields neither. -/
def withoutExtras (request : Request) : Request :=
  { request with
    parameters := request.parameters.map FieldRecord.withoutExtras
    responses := request.responses.map FieldRecord.withoutExtras
    extras := [] }

theorem corrected_withoutExtras (request : Request) :
    request.withoutExtras.corrected = request.corrected.withoutExtras := by
  rw [corrected, corrected]
  have same : request.withoutExtras.correction? = request.correction? := rfl
  rw [same]
  cases request.correction? <;> rfl

@[simp]
theorem name_withoutExtras (request : Request) : request.withoutExtras.name = request.name := rfl

/-- The overloads of a request have nothing of its extra entries. -/
@[simp]
theorem requestLines?_withoutExtras (request : Request) :
    Overloads.requestLines? request.withoutExtras = Overloads.requestLines? request := by
  have isEmpty : request.withoutExtras.parameters.isEmpty = request.parameters.isEmpty :=
    List.isEmpty_map
  have sameData : Overloads.requestData request.withoutExtras = Overloads.requestData request := by
    unfold Overloads.requestData
    rw [isEmpty, name_withoutExtras]
  have sameCall : Overloads.call request.withoutExtras = Overloads.call request := by
    unfold Overloads.call
    rw [sameData, name_withoutExtras]
  rw [Overloads.requestLines?, Overloads.requestLines?, sameCall]
  rfl

end Request

namespace Event

/-- The event with no extra entries, in its fields neither. -/
def withoutExtras (event : Event) : Event :=
  { event with
    payload := event.payload.map FieldRecord.withoutExtras
    extras := [] }

@[simp]
theorem eventLines?_withoutExtras (event : Event) :
    Overloads.eventLines? event.withoutExtras = Overloads.eventLines? event := rfl

end Event

namespace Entity

/-- The entity with no extra entries in its fields. -/
def withoutExtras (entity : Entity) : Entity :=
  { entity with fields := entity.fields.map FieldRecord.withoutExtras }

/-- The extra entries of an entity's fields have no part in its declaration. -/
@[simp]
theorem declaration_withoutExtras (entity : Entity) :
    entity.withoutExtras.declaration = entity.declaration := by
  have sameGrowth : entity.withoutExtras.growth = entity.growth := by
    simp [growth, descriptors, withoutExtras, Function.comp_def]
  have sameLabel : entity.withoutExtras.label = entity.label := rfl
  rw [declaration, declaration, sameGrowth, sameLabel]
  simp [withoutExtras]

/-- They have no part in its member. -/
@[simp]
theorem member?_withoutExtras (entity : Entity) :
    entity.withoutExtras.member? = entity.member? := by
  rw [member?, member?, declaration_withoutExtras]
  rfl

/-- They have no part in the failure that is reported for it. -/
@[simp]
theorem failure?_withoutExtras (entity : Entity) :
    entity.withoutExtras.failure? = entity.failure? := by
  rw [failure?, failure?, declaration_withoutExtras]
  rfl

end Entity

namespace Interface

/-- The members of an interface are the same without extra entries. -/
theorem text_withoutExtras (mode : GenerationMode) (entities : List Entity) :
    text mode (entities.map Entity.withoutExtras) = text mode entities := by
  cases mode <;>
    simp [text, members, strictMembers, keptMembers, List.filterMap_map, Function.comp_def]

/-- The same failures are reported without extra entries. -/
theorem reported_withoutExtras (mode : GenerationMode) (entities : List Entity) :
    reported mode (entities.map Entity.withoutExtras) = reported mode entities := by
  cases mode with
  | strict => rfl
  | keepGoing =>
      rw [reported, reported, failures, failures, List.filterMap_map]
      exact congrArg (List.filterMap · entities) (funext Entity.failure?_withoutExtras)

end Interface

namespace Protocol

/-- The protocol with no extra entries, in its records neither. -/
def withoutExtras (protocol : Protocol) : Protocol where
  enums := protocol.enums.map EnumSection.withoutExtras
  requests := protocol.requests.map Request.withoutExtras
  events := protocol.events.map Event.withoutExtras

theorem corrected_withoutExtras (protocol : Protocol) :
    protocol.withoutExtras.corrected = protocol.corrected.withoutExtras := by
  simp [corrected, withoutExtras, Request.corrected_withoutExtras]

/-- An enum is written alike without extra entries. -/
theorem enumBlock_withoutExtras (protocol : Protocol) (name : String) :
    protocol.withoutExtras.enumBlock name = protocol.enumBlock name := by
  have found : protocol.withoutExtras.enum? name =
      (protocol.enum? name).map EnumSection.withoutExtras := by
    simp [enum?, withoutExtras, List.find?_map, Function.comp_def]
  rw [enumBlock, enumBlock, found]
  cases protocol.enum? name with
  | none => rfl
  | some enumSection =>
      simp [EnumSection.withoutExtras, EnumBlock.text, EnumBlock.lines?, List.mapM_map,
        Function.comp_def]

theorem entities_withoutExtras (protocol : Protocol) (kind : EntityKind) :
    protocol.withoutExtras.entities kind =
      (protocol.entities kind).map Entity.withoutExtras := by
  cases kind <;> simp [entities, withoutExtras, Entity.withoutExtras, Request.withoutExtras,
    Event.withoutExtras]

/-- The overloads are written alike without extra entries. -/
theorem overloads_withoutExtras (protocol : Protocol) :
    Overloads.text protocol.withoutExtras = Overloads.text protocol := by
  simp [Overloads.text, Overloads.lines?, withoutExtras, List.mapM_map, Function.comp_def]

/-- Extra entries have no part in the module. -/
theorem generate_withoutExtras
    (protocol : Protocol)
    (mode : GenerationMode)
    (overloads : Bool) :
    protocol.withoutExtras.generate mode overloads = protocol.generate mode overloads := by
  have enums : protocol.withoutExtras.enumBlocks = protocol.enumBlocks := by
    simp only [enumBlocks, enumBlock_withoutExtras]
  have interfaces (kind : EntityKind) :
      protocol.withoutExtras.interfaceText mode kind = protocol.interfaceText mode kind := by
    rw [interfaceText, interfaceText, entities_withoutExtras, Interface.text_withoutExtras]
  have parts : protocol.withoutExtras.moduleParts mode overloads =
      protocol.moduleParts mode overloads := by
    simp only [moduleParts, enums, interfaces, overloads_withoutExtras]
  have entities : protocol.withoutExtras.allEntities =
      protocol.allEntities.map Entity.withoutExtras := by
    simp only [allEntities, entities_withoutExtras, List.map_append]
  rw [generate, generate, parts, entities, Interface.reported_withoutExtras]

end Protocol
end ProtocolTypes
