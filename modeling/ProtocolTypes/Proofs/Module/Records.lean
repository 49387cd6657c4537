import ProtocolTypes.Proofs.Module.Declarations
import ProtocolTypes.Proofs.TypeTree.Trace

/-!
# What is noted of an entity

While an entity with fields is compiled, a record tells of the compilation, and then one of
every container that nobody declared and one of every field that is declared again.  These
records have one wording each, and there are no others (`messages_records_perm`).
-/

namespace ProtocolTypes

open TypeTree FieldDescriptor

namespace LogRecord

/-- The wording for a container that is made for the place. -/
def containerMessage (descriptors : List FieldDescriptor) (place : Place) : String :=
  "Synthesized " ++
    (if GoesOn descriptors place.position .element then "array of object (no properties)"
      else "object (no properties)") ++
    " for '" ++ place.name ++ "'"

/-- The wording for a field that is declared again. -/
def repetitionMessage (path : String) : String :=
  "Field '" ++ path ++ "' declared more than once; keeping the last"

theorem message_synthesis (descriptors : List FieldDescriptor) (place : Place) :
    (growth (synthesis descriptors place)).message = containerMessage descriptors place := by
  have described : TypeTree.describe
      (if GoesOn descriptors place.position .element then array emptyObject .blank
        else emptyObject) =
      if GoesOn descriptors place.position .element then "array of object (no properties)"
        else "object (no properties)" := by
    split
    · decide
    · decide
  change "Synthesized " ++ TypeTree.describe _ ++ " for '" ++ place.name ++ "'" = _
  rw [described]
  rfl

example :
    (growth (synthesis sampleFields ⟨[], "items"⟩)).message =
      "Synthesized array of object (no properties) for 'items'" := by
  decide

end LogRecord

namespace Entity

/-- Where an entity with fields has a declaration, the first record tells that it is compiled,
and the others tell, in some order, of each container that is made and of each repeated path. -/
theorem messages_records_perm
    (entity : Entity)
    (present : entity.fields ≠ [])
    (declaration : String)
    (compiles : entity.declaration = .ok declaration) :
    ∃ made repeated, AccountsFor entity.descriptors made repeated entity.growth.steps ∧
      ∃ told, entity.records.map LogRecord.message =
          ("Compiling " ++ entity.kind.spelling ++ " " ++ entity.name ++ " (" ++
            toString entity.fields.length ++ " fields)") :: told ∧
        told.Perm (made.map (LogRecord.containerMessage entity.descriptors) ++
          repeated.map LogRecord.repetitionMessage) := by
  have noFault := ((entity.declaration_eq_ok_iff present declaration).mp compiles).1
  have built : (build entity.descriptors).result = .ok entity.growth.tree := by
    change entity.growth.result = _
    rw [Growth.result, noFault]
  obtain ⟨made, repeated, accounts⟩ := accountsFor_build built
  refine ⟨made, repeated, accounts,
    entity.growth.steps.map fun step => (LogRecord.growth step).message, ?_, ?_⟩
  · rw [records, if_neg (by simpa using present), List.map_cons, List.map_map]
    rfl
  · refine (accounts.exactly.map _).trans (.of_eq ?_)
    rw [List.map_append, List.map_map, List.map_map]
    congr 1
    exact List.map_congr_left fun place _ => LogRecord.message_synthesis entity.descriptors place

end Entity

end ProtocolTypes
