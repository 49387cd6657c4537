import ProtocolTypes.Module.Declaration

/-!
# Declarations and growths

Whether an entity has a declaration, and which, is a matter of its growth alone.
-/

namespace ProtocolTypes
namespace Entity

/-- An entity with fields is declared by the text of its type tree. -/
theorem declaration_eq_ok_iff
    (entity : Entity)
    (nonempty : entity.fields ≠ [])
    (declaration : String) :
    entity.declaration = .ok declaration ↔
      entity.growth.fault = none ∧ entity.growth.tree.render = declaration := by
  rw [Entity.declaration, if_neg (by simpa using nonempty), Growth.result]
  cases entity.growth.fault <;> simp

/-- The declaration from the fields in their order. -/
theorem declaration_eq_ok_of_byDepth
    (entity : Entity)
    (nonempty : entity.fields ≠ [])
    {descriptors : List FieldDescriptor}
    (sorted : TypeTree.byDepth entity.descriptors = descriptors)
    {declaration : String}
    (grows : (TypeTree.insertAll descriptors TypeTree.emptyObject).fault.isNone)
    (reads : (TypeTree.insertAll descriptors TypeTree.emptyObject).tree.render = declaration) :
    entity.declaration = .ok declaration := by
  rw [declaration_eq_ok_iff entity nonempty, Entity.growth, TypeTree.build, sorted]
  exact ⟨Option.isNone_iff_eq_none.mp grows, reads⟩

/-- An entity whose growth is refused fails with that fault, under its label. -/
theorem declaration_of_fault
    (entity : Entity)
    (fault : SchemaFault)
    (refused : entity.growth.fault = some fault) :
    entity.declaration = .error { fault := fault, entity := some entity.label } := by
  have hasFields : entity.fields ≠ [] := by
    intro empty
    simp [growth, descriptors, empty, TypeTree.build, TypeTree.byDepth, TypeTree.insertAll]
      at refused
  rw [declaration, if_neg (by simpa using hasFields), Growth.result, refused]

/-- An entity whose growth is not refused has a declaration. -/
theorem exists_declaration
    (entity : Entity)
    (grows : entity.growth.fault = none) :
    ∃ text, entity.declaration = .ok text := by
  unfold declaration Growth.result
  rw [grows]
  split
  · exact ⟨_, rfl⟩
  · exact ⟨_, rfl⟩

end Entity
end ProtocolTypes
