import ProtocolTypes.Protocol.Check

/-!
# Entries of protocol records

A record as a document value again: its fields under their own names, in their order,
and its extra entries after them.  An extra entry under a field's name takes the
field's place, since the two have one key.
-/

namespace ProtocolTypes

namespace Value

/-- An optional text. -/
def ofText? : Option String → Value
  | some text => .str text
  | none => .null

/-- An optional truth value. -/
def ofBool? : Option Bool → Value
  | some value => .bool value
  | none => .null

/-- A record of these fields and extra entries. -/
def ofRecord (fields : List (FieldKey × Value)) (extras : Extras) : Value :=
  .map (extras.foldl (fun entries (key, value) => setEntry key value entries)
    (fields.map fun (field, value) => (.str field.name, value)))

end Value

namespace EnumValue

/-- The value as it was given. -/
def toValue : EnumValue → Value
  | int value => .int value
  | float value => .float value
  | text value => .str value

end EnumValue

namespace EnumMember

/-- The member as a document value. -/
def toValue (member : EnumMember) : Value :=
  .ofRecord
    [ (.description, .str member.description),
      (identifierKey, .str member.identifier),
      (.rpcVersion, .str member.rpcVersion),
      (.deprecated, .bool member.deprecated),
      (.initialVersion, .str member.initialVersion),
      (valueKey, member.value.toValue) ]
    member.extras

end EnumMember

namespace EnumSection

/-- The section as a document value. -/
def toValue (enumSection : EnumSection) : Value :=
  .ofRecord
    [ (nameKey, .str enumSection.name),
      (membersKey, .list (enumSection.members.map EnumMember.toValue)) ]
    enumSection.extras

end EnumSection

namespace FieldRecord

/-- The field record as a document value. -/
def toValue (field : FieldRecord) : Value :=
  .ofRecord
    [ (nameKey, .str field.name),
      (typeKey, .str field.declaredType),
      (descriptionKey, .str field.description),
      (restrictionsKey, .ofText? field.restrictions),
      (optionalKey, .ofBool? field.optional),
      (behaviorKey, .ofText? field.optionalBehavior) ]
    field.extras

end FieldRecord

namespace Request

/-- The request as a document value. -/
def toValue (request : Request) : Value :=
  .ofRecord
    [ (.description, .str request.description),
      (nameKey, .str request.name),
      (.complexity, .int request.complexity),
      (.rpcVersion, .str request.rpcVersion),
      (.deprecated, .bool request.deprecated),
      (.initialVersion, .str request.initialVersion),
      (.category, .str request.category),
      (parametersKey, .list (request.parameters.map FieldRecord.toValue)),
      (responsesKey, .list (request.responses.map FieldRecord.toValue)) ]
    request.extras

end Request

namespace Event

/-- The event as a document value. -/
def toValue (event : Event) : Value :=
  .ofRecord
    [ (.description, .str event.description),
      (nameKey, .str event.name),
      (subscriptionKey, .str event.subscription),
      (.complexity, .int event.complexity),
      (.rpcVersion, .str event.rpcVersion),
      (.deprecated, .bool event.deprecated),
      (.initialVersion, .str event.initialVersion),
      (.category, .str event.category),
      (payloadKey, .list (event.payload.map FieldRecord.toValue)) ]
    event.extras

end Event

namespace Protocol

/-- The protocol as a document value. -/
def toValue (protocol : Protocol) : Value :=
  .ofRecord
    [ (enumsKey, .list (protocol.enums.map EnumSection.toValue)),
      (requestsKey, .list (protocol.requests.map Request.toValue)),
      (eventsKey, .list (protocol.events.map Event.toValue)) ]
    protocol.extras

end Protocol

namespace FieldDescriptor

/-- The descriptor as a document value. -/
def toValue (descriptor : FieldDescriptor) : Value :=
  .ofRecord
    [ (.same "path", .str descriptor.path),
      (.same "declared_type", .str descriptor.declaredType),
      (.same "kind", .str descriptor.kind.spelling),
      (.same "description", .str descriptor.description),
      (.same "optional", .ofBool? descriptor.optional),
      (.same "restrictions", .ofText? descriptor.restrictions),
      (.same "default_behavior", .ofText? descriptor.defaultBehavior) ]
    []

end FieldDescriptor
end ProtocolTypes
