import ProtocolTypes.CommandLine.Invocation
import ProtocolTypes.CommandLine.Session
import ProtocolTypes.Module.Interface

/-!
# Showing a declaration

One entity is looked up in the protocol and its declaration printed; the rest of the
protocol may be broken.
-/

namespace ProtocolTypes
namespace CommandLine

/-- How a missing entity is told; a response is known by its request. -/
def unknownText (kind : EntityKind) (name : String) : String :=
  match kind with
  | .event => "Unknown event: " ++ name
  | _ => "Unknown request: " ++ name

/-- The failure of asking for an entity that the protocol does not have. -/
def unknownEntity (kind : EntityKind) (name : String) : Failure :=
  { kind := .invalidUsage, wording := unknownText kind name }

/-- The entity that is asked for. -/
def askedEntity (protocol : Protocol) (choices : ShowChoices) : Except Failure Entity :=
  match protocol.entity? choices.kind choices.name with
  | some entity => .ok entity
  | none => .error (unknownEntity choices.kind choices.name)

variable [StandIns]

/-- Finds the entity and prints its declaration. -/
def printDeclaration
    (surroundings : Surroundings)
    (console : Console)
    (choices : ShowChoices) :
    Session Unit := do
  let settings ← Session.settings surroundings { commit := choices.commit }
  let origin := Origin.ofText? choices.source
  let protocol ← Session.protocol surroundings console origin settings
  let entity ← Session.orFail id (askedEntity protocol choices)
  Session.note console entity.records
  let declaration ← Session.orFail SchemaFailure.report entity.declaration
  Session.print (Console.source (entity.member declaration))

/-- Shows a declaration, with the exit code as the result. -/
def display
    (surroundings : Surroundings)
    (console : Console)
    (choices : ShowChoices) :
    Session Int :=
  Session.conclude console (printDeclaration surroundings console choices) fun _ => pure 0

end CommandLine
end ProtocolTypes
