import ProtocolTypes.Proofs.TypeTree.Notes

/-!
# Trees without documentation

`undocumented` takes the documentation from every node of a tree and leaves its shape, its
names and what is optional.  Growing a tree and taking its documentation commute
(`mirrors_build`): what a descriptor documents neither changes the rest of the tree nor
whether the descriptor is refused.
-/

namespace ProtocolTypes

/-- The note without its documentation. -/
def Note.undocumented (note : Note) : Note := { note with documentation := [] }

theorem Note.undocumented_blank : Note.blank.undocumented = Note.blank := rfl

namespace TypeTree

mutual

/-- The tree without the documentation of its nodes. -/
def undocumented : TypeTree → TypeTree
  | scalar kind note => scalar kind note.undocumented
  | opaqueJson note => opaqueJson note.undocumented
  | object properties note => object (undocumentedProperties properties) note.undocumented
  | array element note => array (undocumented element) note.undocumented

/-- The properties without the documentation of their nodes. -/
def undocumentedProperties : List (String × TypeTree) → List (String × TypeTree)
  | [] => []
  | (name, tree) :: rest => (name, undocumented tree) :: undocumentedProperties rest

end

mutual

/-- Taking the documentation is a change of notes. -/
theorem undocumented_eq_mapNotes (tree : TypeTree) :
    tree.undocumented = tree.mapNotes Note.undocumented := by
  cases tree with
  | scalar kind note | opaqueJson note => rfl
  | object properties note =>
      rw [undocumented, mapNotes, undocumentedProperties_eq_mapPropertyNotes properties]
  | array element note => rw [undocumented, mapNotes, undocumented_eq_mapNotes element]

theorem undocumentedProperties_eq_mapPropertyNotes (properties : List (String × TypeTree)) :
    undocumentedProperties properties = mapPropertyNotes Note.undocumented properties := by
  cases properties with
  | nil => rfl
  | cons property rest =>
      obtain ⟨name, tree⟩ := property
      rw [undocumentedProperties, mapPropertyNotes, undocumented_eq_mapNotes tree,
        undocumentedProperties_eq_mapPropertyNotes rest]

end

theorem note_undocumented (tree : TypeTree) : tree.undocumented.note = tree.note.undocumented := by
  rw [undocumented_eq_mapNotes, note_mapNotes]

end TypeTree

namespace FieldDescriptor

/-- The descriptor without its texts. -/
def undocumented (descriptor : FieldDescriptor) : FieldDescriptor :=
  { descriptor with description := "", restrictions := none, defaultBehavior := none }

theorem leafNote_undocumented (descriptor : FieldDescriptor) :
    descriptor.undocumented.leafNote = descriptor.leafNote.undocumented := by
  have sameKind : descriptor.undocumented.kind = descriptor.kind := rfl
  rw [leafNote, leafNote, sameKind]
  cases descriptor.kind <;> rfl

/-- The texts decide about nothing but the documentation of the leaf. -/
theorem undocumented_retells (descriptor : FieldDescriptor) :
    descriptor.undocumented.Retells Note.undocumented descriptor :=
  retells_of_leafNote Note.undocumented_blank rfl rfl descriptor.leafNote_undocumented

end FieldDescriptor

/-- The growth ends as the other one does, but for the documentation of its tree. -/
structure Growth.Mirrors (mirror growth : Growth) : Prop where
  tree : mirror.tree = growth.tree.undocumented
  fault : mirror.fault.isSome = growth.fault.isSome

/-- Taking the texts from the descriptors takes the documentation from their tree. -/
theorem TypeTree.mirrors_build (descriptors : List FieldDescriptor) :
    (build (descriptors.map FieldDescriptor.undocumented)).Mirrors (build descriptors) := by
  have retold := build_retold Note.undocumented_blank FieldDescriptor.undocumented descriptors
    fun descriptor _ => descriptor.undocumented_retells
  rw [retold]
  exact ⟨(undocumented_eq_mapNotes _).symm, by simp [Growth.mapNotes]⟩

end ProtocolTypes
