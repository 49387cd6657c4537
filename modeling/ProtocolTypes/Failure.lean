import ProtocolTypes.TypeTree.Fault
import ProtocolTypes.Validation.Issue

/-!
# Reported failures

What a run reports when it gives up in the way it is meant to: the kind of failure,
which decides the exit code, its wording, and for a schema failure the field path and
the entity.  Every cause of failure has one report.
-/

namespace ProtocolTypes

/-- The kinds of reported failure. -/
inductive FailureKind
  | general
  | invalidUsage
  | protocolLoad
  | schema
  | unknownType
  | structuralConflict
  | wildcardPlacement
  | lint
  | settings
  deriving DecidableEq, Repr

namespace FailureKind

/-- The kind and those that it is a special case of, the most general one last. -/
def lineage : FailureKind → List FailureKind
  | general => [general]
  | invalidUsage => [invalidUsage, general]
  | protocolLoad => [protocolLoad, general]
  | schema => [schema, general]
  | unknownType => [unknownType, schema, general]
  | structuralConflict => [structuralConflict, schema, general]
  | wildcardPlacement => [wildcardPlacement, structuralConflict, schema, general]
  | lint => [lint, general]
  | settings => [settings, general]

/-- Whether the failure is one of a protocol schema. -/
def isSchema (kind : FailureKind) : Bool :=
  kind.lineage.contains schema

/-- The exit code of the kind. -/
def exitCode : FailureKind → Int
  | general => 1
  | settings => 1
  | invalidUsage => 2
  | protocolLoad => 7
  | schema => 8
  | unknownType => 8
  | structuralConflict => 8
  | wildcardPlacement => 8
  | lint => 9

end FailureKind

/-- A reported failure. -/
structure Failure where
  kind : FailureKind
  /-- The wording without the entity. -/
  wording : String
  exitCode : Int := kind.exitCode
  /-- The field path that brought the failure up. -/
  path : Option String := none
  /-- The label of the entity that it was met in. -/
  entity : Option String := none
  /-- The name that is no declared type. -/
  declaredType : Option String := none
  /-- What was wrong with a refused document, if that is the cause. -/
  issues : Option (List Issue) := none

namespace Failure

/-- The text that a label puts in front of a wording; an empty one puts nothing. -/
def labelText : Option String → String
  | some label => if label.isEmpty then "" else label ++ ": "
  | none => ""

/-- The text of a failure. -/
def text (failure : Failure) : String :=
  labelText failure.entity ++ failure.wording

/-- The same failure in that entity. -/
def inEntity (label : String) (failure : Failure) : Failure :=
  { failure with entity := some label }

/-- The failure of a refused document: a headline in front of what is wrong. -/
def refusal
    (kind : FailureKind)
    (opening record : String)
    (issues : List Issue) :
    Failure :=
  { kind := kind
    wording := opening ++ ": " ++ Issue.headline record issues
    issues := some issues }

end Failure

/-- A schema fault in an entity. -/
structure SchemaFailure where
  fault : SchemaFault
  /-- The label of the entity; a fault of the whole document has none. -/
  entity : Option String := none

namespace SchemaFault

/-- The kind of failure that a fault is. -/
def kind : SchemaFault → FailureKind
  | unknownType _ _ => .unknownType
  | misplacedWildcard _ _ => .wildcardPlacement
  | trailingWildcard _ => .wildcardPlacement
  | blockedDescent _ _ _ => .structuralConflict
  | blockedLeaf _ _ _ => .structuralConflict
  | missingEnum _ => .schema

/-- The name that is no declared type, if that is the fault. -/
def declaredType : SchemaFault → Option String
  | unknownType declared _ => some declared
  | _ => none

end SchemaFault

namespace SchemaFailure

/-- The report of a schema failure. -/
def report (failure : SchemaFailure) : Failure :=
  { kind := failure.fault.kind
    wording := failure.fault.message
    path := failure.fault.path
    entity := failure.entity
    declaredType := failure.fault.declaredType }

@[simp]
theorem exitCode_report (failure : SchemaFailure) : failure.report.exitCode = 8 := by
  obtain ⟨fault, entity⟩ := failure
  cases fault <;> rfl

end SchemaFailure
end ProtocolTypes
