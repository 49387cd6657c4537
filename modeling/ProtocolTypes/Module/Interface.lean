import ProtocolTypes.Module.Declaration

/-!
# Interface members

The members of one interface: a line for every entity of a kind.  In strict mode the
first entity that fails ends the work; in keep-going mode failing entities are left
out and reported.
-/

namespace ProtocolTypes

/-- What becomes of the work when an entity fails. -/
inductive GenerationMode
  | strict
  | keepGoing
  deriving DecidableEq, Repr

/-- An entity that was left out, with the failure that is the reason. -/
structure EntityFailure where
  kind : EntityKind
  name : String
  failure : SchemaFailure

namespace Entity

/-- The member with that declaration. -/
def member (entity : Entity) (declaration : String) : String :=
  entity.name ++ ": " ++ declaration ++ ";"

/-- The member of the entity, or its failure. -/
def member? (entity : Entity) : Except SchemaFailure String :=
  entity.declaration.map entity.member

/-- The report that the entity was left out, if it has to be. -/
def failure? (entity : Entity) : Option EntityFailure :=
  match entity.declaration with
  | .ok _ => none
  | .error failure => some ⟨entity.kind, entity.name, failure⟩

/-- What is noted when a failing entity is left out. -/
def skipRecords (entity : Entity) : List LogRecord :=
  match entity.declaration with
  | .ok _ => []
  | .error failure => [.skipping failure.report.text]

end Entity

namespace Interface

/-- The members of the entities, up to the first failure. -/
def strictMembers (entities : List Entity) : Except SchemaFailure (List String) :=
  entities.mapM Entity.member?

/-- The members of the entities that do not fail. -/
def keptMembers (entities : List Entity) : List String :=
  entities.filterMap fun entity => entity.member?.toOption

/-- The failures of the entities that do. -/
def failures (entities : List Entity) : List EntityFailure :=
  entities.filterMap Entity.failure?

/-- The members in a mode. -/
def members (mode : GenerationMode) (entities : List Entity) :
    Except SchemaFailure (List String) :=
  match mode with
  | .strict => strictMembers entities
  | .keepGoing => .ok (keptMembers entities)

/-- The text of an interface's members. -/
def text (mode : GenerationMode) (entities : List Entity) : Except SchemaFailure String :=
  (members mode entities).map Text.joinLines

/-- What is noted up to the first failure. -/
def strictRecords : List Entity → List LogRecord
  | [] => []
  | entity :: rest =>
    match entity.declaration with
    | .ok _ => entity.records ++ strictRecords rest
    | .error _ => entity.records

/-- What is noted in a mode. -/
def records (mode : GenerationMode) (entities : List Entity) : List LogRecord :=
  match mode with
  | .strict => strictRecords entities
  | .keepGoing => entities.flatMap fun entity => entity.records ++ entity.skipRecords

/-- The failures that are reported in a mode. -/
def reported (mode : GenerationMode) (entities : List Entity) : List EntityFailure :=
  match mode with
  | .strict => []
  | .keepGoing => failures entities

end Interface
end ProtocolTypes
