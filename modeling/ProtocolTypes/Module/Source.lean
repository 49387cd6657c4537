import ProtocolTypes.Module.EnumBlock
import ProtocolTypes.Module.Interface
import ProtocolTypes.Module.MessageTypes
import ProtocolTypes.Module.Overloads

/-!
# Module source

A whole generated module: three enums, the message types, and the three interfaces,
with the overloads after them on demand.  A missing enum ends the work in either
mode; whether a failing entity does is a matter of the mode.
-/

namespace ProtocolTypes

/-- A generated module, and the entities that it leaves out. -/
structure GeneratedModule where
  source : String
  failures : List EntityFailure := []

/-- The blocks of the enums that a module needs. -/
structure EnumBlocks where
  operationCodes : String
  eventSubscriptions : String
  batchExecutionTypes : String

/-- The parts of a module that depend on the protocol. -/
structure ModuleParts where
  enums : EnumBlocks
  events : String
  requests : String
  responses : String
  /-- The overloads, or nothing. -/
  overloads : String

namespace ModuleParts

/-- The opening lines of a module. -/
def opening : List String :=
  [ "/**",
    " * This file is autogenerated by obsgen from obs-websocket's protocol.json",
    " * To update this with latest changes run: obsgen generate",
    " */",
    "import \x7bMerge, JsonArray, JsonObject, JsonValue\x7d from 'type-fest';",
    "" ]

/-- The rules that the second enum is exempt from. -/
def exemptRules : String :=
  "no-bitwise, @typescript-eslint/prefer-literal-enum-member"

/-- The lines of the enums. -/
def enumLines (enums : EnumBlocks) : List String :=
  [ enums.operationCodes,
    "",
    "/* eslint-disable " ++ exemptRules ++ " */",
    enums.eventSubscriptions,
    "/* eslint-enable " ++ exemptRules ++ " */",
    "",
    enums.batchExecutionTypes,
    "" ]

/-- An interface with these members. -/
def interfaceLines (name members : String) : List String :=
  ["export interface " ++ name ++ " \x7b", Text.indent "\t" members, "\x7d"]

/-- The lines of the three interfaces. -/
def interfacesLines (parts : ModuleParts) : List String :=
  ["// Events"] ++ interfaceLines "OBSEventTypes" parts.events ++
    ["", "// Requests and Responses"] ++ interfaceLines "OBSRequestTypes" parts.requests ++
    [""] ++ interfaceLines "OBSResponseTypes" parts.responses

/-- The block with the overloads, if there are any. -/
def overloadLines (overloads : String) : List String :=
  if overloads.isEmpty then []
  else
    [ "",
      "// Overloads for per-request documentation and typing",
      "declare module './base' \x7b",
      "\tinterface BaseOBSWebSocket \x7b",
      Text.indent "\t\t" overloads,
      "\t\x7d",
      "\x7d" ]

/-- The module made of the parts. -/
def source (parts : ModuleParts) : String :=
  Text.joinLines
    (opening ++ enumLines parts.enums ++ MessageTypes.lines ++
      interfacesLines parts ++ overloadLines parts.overloads) ++ "\n"

end ModuleParts

namespace Protocol

/-- The outcome of making a part of a module. -/
abbrev Made (α : Type) := Except (Interruption SchemaFailure) α

/-- The blocks of the enums that a module needs, up to the first that is missing or cannot
be written. -/
def enumBlocks (protocol : Protocol) : Made EnumBlocks := do
  let operationCodes ← protocol.enumBlock "WebSocketOpCode"
  let eventSubscriptions ← protocol.enumBlock "EventSubscription"
  let batchExecutionTypes ← protocol.enumBlock "RequestBatchExecutionType"
  return {
    operationCodes := operationCodes
    eventSubscriptions := eventSubscriptions
    batchExecutionTypes := batchExecutionTypes }

/-- The members of the interface for a kind of entity. -/
def interfaceText (protocol : Protocol) (mode : GenerationMode) (kind : EntityKind) :
    Made String :=
  (Interface.text mode (protocol.entities kind)).mapError .reported

/-- The parts of the protocol's module. -/
def moduleParts (protocol : Protocol) (mode : GenerationMode) (overloads : Bool) :
    Made ModuleParts := do
  let enums ← protocol.enumBlocks
  let events ← protocol.interfaceText mode .event
  let requests ← protocol.interfaceText mode .request
  let responses ← protocol.interfaceText mode .response
  let overloadText ←
    if overloads then (Overloads.text protocol).mapError .accident else pure ""
  return {
    enums := enums
    events := events
    requests := requests
    responses := responses
    overloads := overloadText }

/-- All entities in the order of the interfaces. -/
def allEntities (protocol : Protocol) : List Entity :=
  protocol.entities .event ++ protocol.entities .request ++ protocol.entities .response

/-- The protocol's module. -/
def generate (protocol : Protocol) (mode : GenerationMode) (overloads : Bool) :
    Made GeneratedModule :=
  (protocol.moduleParts mode overloads).map fun parts =>
    { source := parts.source, failures := Interface.reported mode protocol.allEntities }

/-- What is noted while the module is generated: nothing before its enums are made. -/
def generationRecords (protocol : Protocol) (mode : GenerationMode) : List LogRecord :=
  match protocol.enumBlocks with
  | .ok _ => Interface.records mode protocol.allEntities
  | .error _ => []

end Protocol
end ProtocolTypes
