import ProtocolTypes.Document.Value
import ProtocolTypes.Number.Digits
import ProtocolTypes.Number.FloatText
import ProtocolTypes.Protocol.Descriptor

/-!
# Protocol documents

The records of a protocol document: enum sections, requests and events with their
flat field lists.  Every record keeps the entries that it does not know.
-/

namespace ProtocolTypes

/-- The entries of a record that belong to none of its fields. -/
abbrev Extras := List (String × Value)

/-- The value of an enum member, kept as it was given. -/
inductive EnumValue
  | int (value : Int)
  | float (value : Float)
  | text (value : String)

namespace EnumValue

/-- The value as it is written into an enum; an integer of too many digits cannot be. -/
def spelling? : EnumValue → Option String
  | int value => Digits.text? value
  | float value => some (FloatText.text value)
  | text value => some value

end EnumValue

/-- One member of an enum section. -/
structure EnumMember where
  description : String := ""
  identifier : String
  rpcVersion : String := "1"
  deprecated : Bool := false
  initialVersion : String := ""
  value : EnumValue
  extras : Extras := []

/-- A named enum section. -/
structure EnumSection where
  name : String
  members : List EnumMember := []
  extras : Extras := []

/-- One flat field record, as the document lists it. -/
structure FieldRecord where
  name : String
  declaredType : String
  description : String := ""
  restrictions : Option String := none
  optional : Option Bool := none
  optionalBehavior : Option String := none
  extras : Extras := []

/-- A request with the fields of its parameters and of its response. -/
structure Request where
  description : String := ""
  name : String
  complexity : Int := 1
  rpcVersion : String := "1"
  deprecated : Bool := false
  initialVersion : String := ""
  category : String := ""
  parameters : List FieldRecord := []
  responses : List FieldRecord := []
  extras : Extras := []

/-- An event with the fields of its payload. -/
structure Event where
  description : String := ""
  name : String
  subscription : String := ""
  complexity : Int := 1
  rpcVersion : String := "1"
  deprecated : Bool := false
  initialVersion : String := ""
  category : String := ""
  payload : List FieldRecord := []
  extras : Extras := []

/-- A whole protocol document. -/
structure Protocol where
  enums : List EnumSection := []
  requests : List Request := []
  events : List Event := []
  extras : Extras := []

namespace Protocol

/-- The first enum section of that name. -/
def enum? (protocol : Protocol) (name : String) : Option EnumSection :=
  protocol.enums.find? fun enumSection => enumSection.name == name

/-- The first request of that name. -/
def request? (protocol : Protocol) (name : String) : Option Request :=
  protocol.requests.find? fun request => request.name == name

/-- The first event of that name. -/
def event? (protocol : Protocol) (name : String) : Option Event :=
  protocol.events.find? fun event => event.name == name

end Protocol

namespace FieldRecord

/-- The descriptor of a field record.  What is said about leaving a field out is kept
for requests alone. -/
def descriptor (kind : EntityKind) (field : FieldRecord) : FieldDescriptor :=
  match kind with
  | .request =>
    { path := field.name
      declaredType := field.declaredType
      kind := kind
      description := field.description
      optional := field.optional
      restrictions := field.restrictions
      defaultBehavior := field.optionalBehavior }
  | _ =>
    { path := field.name
      declaredType := field.declaredType
      kind := kind
      description := field.description }

@[simp]
theorem path_descriptor (kind : EntityKind) (field : FieldRecord) :
    (field.descriptor kind).path = field.name := by
  cases kind <;> rfl

end FieldRecord
end ProtocolTypes
