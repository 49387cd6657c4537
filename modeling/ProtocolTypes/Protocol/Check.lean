import ProtocolTypes.Protocol.Basic
import ProtocolTypes.Validation.Record

/-!
# Checking protocol documents

The rules by which a document value is taken as a protocol, record by record, and
the correction of a request that one release published under a wrong name.
-/

namespace ProtocolTypes

/-! Fields that several records have. -/

namespace FieldKey

def description : FieldKey := same "description"
def rpcVersion : FieldKey := ⟨"rpcVersion", "rpc_version"⟩
def deprecated : FieldKey := same "deprecated"
def initialVersion : FieldKey := ⟨"initialVersion", "initial_version"⟩
def complexity : FieldKey := same "complexity"
def category : FieldKey := same "category"

end FieldKey

namespace EnumValue

/-- The issues of a value that is taken for none of the three kinds. -/
def refuse (asInteger asFloat asText : Problem) : Checked EnumValue :=
  .invalid [⟨[.key "int"], asInteger⟩, ⟨[.key "float"], asFloat⟩, ⟨[.key "str"], asText⟩]

/-- The value of a text that bytes encode: the number that it holds, if it holds one. -/
def ofEncodedText (written : String) : EnumValue :=
  match Rule.integerText written, Rule.numberText written with
  | .valid value, _ => int value
  | .invalid _, .valid value => float value
  | .invalid _, .invalid _ => text written

/-- Integers, floats and texts as they are; a truth value as an integer; bytes as the number
or the text that they encode. -/
def rule : Rule EnumValue
  | .int value => .valid (.int value)
  | .bool value => .valid (.int (if value then 1 else 0))
  | .float value => .valid (.float value)
  | .str value => .valid (.text value)
  | .bytes value =>
    match Rule.encodedText .stringEncoding value with
    | .valid written => .valid (ofEncodedText written)
    | .invalid _ => refuse .intParsing .floatParsing .stringEncoding
  | _ => refuse .intType .floatType .stringType

end EnumValue

namespace EnumMember

def identifierKey : FieldKey := ⟨"enumIdentifier", "enum_identifier"⟩
def valueKey : FieldKey := ⟨"enumValue", "enum_value"⟩

/-- The fields of the record in their order. -/
def fields : List FieldKey :=
  [.description, identifierKey, .rpcVersion, .deprecated, .initialVersion, valueKey]

/-- The rule for an enum member. -/
def rule : Rule EnumMember :=
  Record.rule "EnumIdentifier" fun entries =>
    EnumMember.mk
      <$> Record.withDefault entries .description Rule.textOrNumber ""
      <*> Record.required entries identifierKey Rule.textOrNumber
      <*> Record.withDefault entries .rpcVersion Rule.textOrNumber "1"
      <*> Record.withDefault entries .deprecated Rule.boolean false
      <*> Record.withDefault entries .initialVersion Rule.textOrNumber ""
      <*> Record.required entries valueKey EnumValue.rule
      <*> Record.extras entries fields

end EnumMember

namespace EnumSection

def nameKey : FieldKey := ⟨"enumType", "enum_type"⟩
def membersKey : FieldKey := ⟨"enumIdentifiers", "enum_identifiers"⟩

@[inherit_doc EnumMember.fields]
def fields : List FieldKey := [nameKey, membersKey]

/-- The rule for an enum section. -/
def rule : Rule EnumSection :=
  Record.rule "EnumType" fun entries =>
    EnumSection.mk
      <$> Record.required entries nameKey Rule.text
      <*> Record.withDefault entries membersKey (Rule.listOf EnumMember.rule) []
      <*> Record.extras entries fields

end EnumSection

namespace FieldRecord

def nameKey : FieldKey := ⟨"valueName", "value_name"⟩
def typeKey : FieldKey := ⟨"valueType", "value_type"⟩
def descriptionKey : FieldKey := ⟨"valueDescription", "value_description"⟩
def restrictionsKey : FieldKey := ⟨"valueRestrictions", "value_restrictions"⟩
def optionalKey : FieldKey := ⟨"valueOptional", "value_optional"⟩
def behaviorKey : FieldKey := ⟨"valueOptionalBehavior", "value_optional_behavior"⟩

@[inherit_doc EnumMember.fields]
def fields : List FieldKey :=
  [nameKey, typeKey, descriptionKey, restrictionsKey, optionalKey, behaviorKey]

/-- The rule for a field record. -/
def rule : Rule FieldRecord :=
  Record.rule "ProtocolField" fun entries =>
    FieldRecord.mk
      <$> Record.required entries nameKey Rule.text
      <*> Record.required entries typeKey Rule.text
      <*> Record.withDefault entries descriptionKey Rule.text ""
      <*> Record.withDefault entries restrictionsKey (Rule.optional Rule.text) none
      <*> Record.withDefault entries optionalKey (Rule.optional Rule.boolean) none
      <*> Record.withDefault entries behaviorKey (Rule.optional Rule.text) none
      <*> Record.extras entries fields

end FieldRecord

namespace Request

def nameKey : FieldKey := ⟨"requestType", "request_type"⟩
def parametersKey : FieldKey := ⟨"requestFields", "request_fields"⟩
def responsesKey : FieldKey := ⟨"responseFields", "response_fields"⟩

@[inherit_doc EnumMember.fields]
def fields : List FieldKey :=
  [.description, nameKey, .complexity, .rpcVersion, .deprecated, .initialVersion, .category,
    parametersKey, responsesKey]

/-- The rule for a request. -/
def rule : Rule Request :=
  Record.rule "ProtocolRequest" fun entries =>
    Request.mk
      <$> Record.withDefault entries .description Rule.textOrNumber ""
      <*> Record.required entries nameKey Rule.textOrNumber
      <*> Record.withDefault entries .complexity Rule.integer 1
      <*> Record.withDefault entries .rpcVersion Rule.textOrNumber "1"
      <*> Record.withDefault entries .deprecated Rule.boolean false
      <*> Record.withDefault entries .initialVersion Rule.textOrNumber ""
      <*> Record.withDefault entries .category Rule.textOrNumber ""
      <*> Record.withDefault entries parametersKey (Rule.listOf FieldRecord.rule) []
      <*> Record.withDefault entries responsesKey (Rule.listOf FieldRecord.rule) []
      <*> Record.extras entries fields

/-- The names under which a request was published by mistake, with the right ones. -/
def corrections : List (String × String) :=
  [("GetGroupItemList", "GetGroupSceneItemList")]

/-- The right name of a request that was published under a wrong one. -/
def correction? (request : Request) : Option String :=
  corrections.lookup request.name

/-- The request under its right name. -/
def corrected (request : Request) : Request :=
  match request.correction? with
  | some name => { request with name := name }
  | none => request

end Request

namespace Event

def nameKey : FieldKey := ⟨"eventType", "event_type"⟩
def subscriptionKey : FieldKey := ⟨"eventSubscription", "event_subscription"⟩
def payloadKey : FieldKey := ⟨"dataFields", "data_fields"⟩

@[inherit_doc EnumMember.fields]
def fields : List FieldKey :=
  [.description, nameKey, subscriptionKey, .complexity, .rpcVersion, .deprecated,
    .initialVersion, .category, payloadKey]

/-- The rule for an event. -/
def rule : Rule Event :=
  Record.rule "ProtocolEvent" fun entries =>
    Event.mk
      <$> Record.withDefault entries .description Rule.textOrNumber ""
      <*> Record.required entries nameKey Rule.textOrNumber
      <*> Record.withDefault entries subscriptionKey Rule.textOrNumber ""
      <*> Record.withDefault entries .complexity Rule.integer 1
      <*> Record.withDefault entries .rpcVersion Rule.textOrNumber "1"
      <*> Record.withDefault entries .deprecated Rule.boolean false
      <*> Record.withDefault entries .initialVersion Rule.textOrNumber ""
      <*> Record.withDefault entries .category Rule.textOrNumber ""
      <*> Record.withDefault entries payloadKey (Rule.listOf FieldRecord.rule) []
      <*> Record.extras entries fields

end Event

namespace Protocol

def enumsKey : FieldKey := .same "enums"
def requestsKey : FieldKey := .same "requests"
def eventsKey : FieldKey := .same "events"

@[inherit_doc EnumMember.fields]
def fields : List FieldKey := [enumsKey, requestsKey, eventsKey]

/-- The rule for a protocol document. -/
def rule : Rule Protocol :=
  Record.rule "Protocol" fun entries =>
    Protocol.mk
      <$> Record.withDefault entries enumsKey (Rule.listOf EnumSection.rule) []
      <*> Record.withDefault entries requestsKey (Rule.listOf Request.rule) []
      <*> Record.withDefault entries eventsKey (Rule.listOf Event.rule) []
      <*> Record.extras entries fields

/-- The protocol with every request under its right name. -/
def corrected (protocol : Protocol) : Protocol :=
  { protocol with requests := protocol.requests.map Request.corrected }

/-- The wrong and right names of the requests that are corrected. -/
def renamings (protocol : Protocol) : List (String × String) :=
  protocol.requests.filterMap fun request =>
    request.correction?.map fun name => (request.name, name)

end Protocol

namespace FieldDescriptor

/-- The rule for the kind of an entity. -/
def kindRule : Rule EntityKind
  | .str value =>
    match EntityKind.ofSpelling? value with
    | some kind => .valid kind
    | none => .refuse .kindSpelling
  | _ => .refuse .kindSpelling

/-- The rule for a descriptor; unknown entries are dropped. -/
def rule : Rule FieldDescriptor :=
  Record.rule "FieldDescriptor" fun entries =>
    FieldDescriptor.mk
      <$> Record.required entries (.same "path") Rule.text
      <*> Record.required entries (.same "declared_type") Rule.text
      <*> Record.required entries (.same "kind") kindRule
      <*> Record.withDefault entries .description Rule.text ""
      <*> Record.withDefault entries (.same "optional") (Rule.optional Rule.boolean) none
      <*> Record.withDefault entries (.same "restrictions") (Rule.optional Rule.text) none
      <*> Record.withDefault entries (.same "default_behavior") (Rule.optional Rule.text) none

end FieldDescriptor
end ProtocolTypes
