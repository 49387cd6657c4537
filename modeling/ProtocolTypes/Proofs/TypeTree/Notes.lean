import ProtocolTypes.Failure
import ProtocolTypes.Proofs.TypeTree.DeclaredText
import ProtocolTypes.TypeTree.Insert

/-!
# Changing the notes of a tree

`mapNotes` changes the note of every node and leaves shape and names.  A descriptor that
retells another has the same path and a leaf with changed notes.  Growing a tree and changing
its notes commute: retold descriptors build the tree with changed notes, report the same
steps, and are refused for the same reasons (`build_retold`).
-/

namespace ProtocolTypes
namespace TypeTree

mutual

/-- The tree with every note changed. -/
def mapNotes (change : Note → Note) : TypeTree → TypeTree
  | scalar kind note => scalar kind (change note)
  | opaqueJson note => opaqueJson (change note)
  | object properties note => object (mapPropertyNotes change properties) (change note)
  | array element note => array (mapNotes change element) (change note)

/-- The properties with every note changed. -/
def mapPropertyNotes (change : Note → Note) :
    List (String × TypeTree) → List (String × TypeTree)
  | [] => []
  | (name, tree) :: rest => (name, mapNotes change tree) :: mapPropertyNotes change rest

end

section

variable (change : Note → Note)

theorem mapNotes_withNote (note : Note) (tree : TypeTree) :
    (tree.withNote note).mapNotes change = (tree.mapNotes change).withNote (change note) := by
  cases tree <;> rfl

theorem note_mapNotes (tree : TypeTree) : (tree.mapNotes change).note = change tree.note := by
  cases tree <;> rfl

/-- A changed property is the property, changed. -/
theorem property?_mapPropertyNotes
    (name : String)
    (properties : List (String × TypeTree)) :
    property? name (mapPropertyNotes change properties) =
      (property? name properties).map (mapNotes change) := by
  induction properties with
  | nil => rfl
  | cons property rest inductionHypothesis =>
      obtain ⟨other, tree⟩ := property
      simp only [mapPropertyNotes, property?, inductionHypothesis]
      split <;> rfl

/-- Properties may be set before or after the notes are changed. -/
theorem mapPropertyNotes_setProperty
    (name : String)
    (tree : TypeTree)
    (properties : List (String × TypeTree)) :
    mapPropertyNotes change (setProperty name tree properties) =
      setProperty name (tree.mapNotes change) (mapPropertyNotes change properties) := by
  induction properties with
  | nil => rfl
  | cons property rest inductionHypothesis =>
      obtain ⟨other, old⟩ := property
      simp only [mapPropertyNotes, setProperty]
      split <;> simp [mapPropertyNotes, inductionHypothesis]

/-- Properties keep their names and their order. -/
theorem propertyNames_mapPropertyNotes (properties : List (String × TypeTree)) :
    propertyNames (mapPropertyNotes change properties) = propertyNames properties := by
  induction properties with
  | nil => rfl
  | cons property rest inductionHypothesis =>
      simpa [propertyNames, mapPropertyNotes] using inductionHypothesis

/-- Diagnostics name a shape without looking at notes. -/
theorem describe_mapNotes (tree : TypeTree) : (tree.mapNotes change).describe = tree.describe := by
  fun_induction describe tree with
  | case1 kind note => rfl
  | case2 note => rfl
  | case3 properties note names =>
      simp only [mapNotes, describe, propertyNames_mapPropertyNotes, names]
  | case4 element note inductionHypothesis =>
      simp only [mapNotes, describe, inductionHypothesis]

variable (keepsBlank : change .blank = .blank)

include keepsBlank

theorem mapNotes_emptyObject : emptyObject.mapNotes change = emptyObject := by
  simp [emptyObject, mapNotes, mapPropertyNotes, keepsBlank]

/-- What is synthesized on the way has no notes to change. -/
theorem mapNotes_synthesized (segments : List String) :
    (synthesized segments).mapNotes change = synthesized segments := by
  unfold synthesized
  split
  · split
    · simp [mapNotes, mapNotes_emptyObject change keepsBlank, keepsBlank]
    · exact mapNotes_emptyObject change keepsBlank
  · exact mapNotes_emptyObject change keepsBlank

/-- Nothing is said in the tree of a declared type. -/
theorem mapNotes_tree (declared : DeclaredType) :
    declared.tree.mapNotes change = declared.tree := by
  obtain ⟨depth, base⟩ := declared
  rw [DeclaredType.tree]
  induction depth with
  | zero => cases base <;> simp [DeclaredType.wrap, BaseType.tree, emptyObject, mapNotes,
      mapPropertyNotes, keepsBlank]
  | succ depth inductionHypothesis =>
      simp [DeclaredType.wrap, mapNotes, inductionHypothesis, keepsBlank]

end

mutual

theorem mapNotes_id (tree : TypeTree) : tree.mapNotes id = tree := by
  cases tree with
  | scalar kind note => rfl
  | opaqueJson note => rfl
  | object properties note => simp [mapNotes, mapPropertyNotes_id properties]
  | array element note => simp [mapNotes, mapNotes_id element]

theorem mapPropertyNotes_id (properties : List (String × TypeTree)) :
    mapPropertyNotes id properties = properties := by
  cases properties with
  | nil => rfl
  | cons property rest =>
      obtain ⟨name, tree⟩ := property
      simp [mapPropertyNotes, mapNotes_id tree, mapPropertyNotes_id rest]

end

end TypeTree

namespace SchemaFault

/-- The fault with the notes of what was found changed. -/
def mapNotes (change : Note → Note) : SchemaFault → SchemaFault
  | unknownType declared path => unknownType declared path
  | misplacedWildcard path found => misplacedWildcard path (found.mapNotes change)
  | trailingWildcard path => trailingWildcard path
  | blockedDescent path segment found => blockedDescent path segment (found.mapNotes change)
  | blockedLeaf path leaf found => blockedLeaf path leaf (found.mapNotes change)
  | missingEnum name => missingEnum name

theorem mapNotes_id (fault : SchemaFault) : fault.mapNotes id = fault := by
  cases fault <;> simp [mapNotes, TypeTree.mapNotes_id]

/-- The wording of a fault says nothing about notes. -/
theorem message_mapNotes (change : Note → Note) (fault : SchemaFault) :
    (fault.mapNotes change).message = fault.message := by
  cases fault with
  | unknownType declared path | trailingWildcard path | missingEnum name => rw [mapNotes]
  | misplacedWildcard path found | blockedDescent path segment found
  | blockedLeaf path leaf found =>
      -- The equations of `message` take long to make, so it is opened by its definition.
      rw [mapNotes]
      delta message
      dsimp only
      rw [TypeTree.describe_mapNotes]

/-- A fault keeps its kind. -/
theorem kind_mapNotes (change : Note → Note) (fault : SchemaFault) :
    (fault.mapNotes change).kind = fault.kind := by
  cases fault <;> rfl

/-- A fault keeps its path. -/
theorem path_mapNotes (change : Note → Note) (fault : SchemaFault) :
    (fault.mapNotes change).path = fault.path := by
  cases fault <;> rfl

theorem declaredType_mapNotes (change : Note → Note) (fault : SchemaFault) :
    (fault.mapNotes change).declaredType = fault.declaredType := by
  cases fault <;> rfl

end SchemaFault

/-- Notes are not reported. -/
theorem SchemaFailure.report_mapNotes
    (change : Note → Note)
    (fault : SchemaFault)
    (entity : Option String) :
    (SchemaFailure.mk (fault.mapNotes change) entity).report =
      (SchemaFailure.mk fault entity).report := by
  rw [report, report, fault.message_mapNotes, fault.kind_mapNotes, fault.path_mapNotes,
    fault.declaredType_mapNotes]

namespace Growth

/-- The growth with the notes of its tree changed. -/
def mapNotes (change : Note → Note) (growth : Growth) : Growth :=
  { growth with
    tree := growth.tree.mapNotes change
    fault := growth.fault.map (SchemaFault.mapNotes change) }

theorem mapNotes_id (growth : Growth) : growth.mapNotes id = growth := by
  obtain ⟨tree, steps, fault⟩ := growth
  cases fault <;> simp [mapNotes, TypeTree.mapNotes_id, SchemaFault.mapNotes_id]

end Growth

/-- The descriptor has the same path as the other one, and its leaf with changed notes. -/
structure FieldDescriptor.Retells
    (change : Note → Note)
    (retold descriptor : FieldDescriptor) : Prop where
  path : retold.path = descriptor.path
  leaf : retold.leaf = descriptor.leaf.map (TypeTree.mapNotes change)

/-- Descriptors of one path and type differ in the notes of their leaves only. -/
theorem FieldDescriptor.retells_of_leafNote
    {change : Note → Note}
    (keepsBlank : change .blank = .blank)
    {retold descriptor : FieldDescriptor}
    (samePath : retold.path = descriptor.path)
    (sameType : retold.declaredType = descriptor.declaredType)
    (changed : retold.leafNote = change descriptor.leafNote) :
    retold.Retells change descriptor := by
  refine ⟨samePath, ?_⟩
  rw [leaf, leaf, changed, samePath, sameType, TypeTree.ofDeclaredType]
  cases DeclaredType.parse? descriptor.declaredType.toList with
  | none => rfl
  | some declared =>
      simp [Except.map, TypeTree.mapNotes_withNote, TypeTree.mapNotes_tree change keepsBlank]

namespace TypeTree

section

variable {change : Note → Note} {retold descriptor : FieldDescriptor}

/-- Attaching a retold leaf to a tree with changed notes attaches the leaf and changes notes. -/
theorem attach_retold
    (retells : retold.Retells change descriptor)
    (segment : String)
    (tree : TypeTree) :
    attach retold segment (tree.mapNotes change) =
      (attach descriptor segment tree).mapNotes change := by
  unfold attach
  rw [retells.path]
  split
  · rfl
  · cases tree with
    | scalar kind note | opaqueJson note | array element note => rfl
    | object properties note =>
        simp only [mapNotes, retells.leaf, property?_mapPropertyNotes, Option.isSome_map]
        cases resolves : descriptor.leaf with
        | ok node => simp [Growth.mapNotes, mapNotes, mapPropertyNotes_setProperty, Except.map]
        | error fault =>
            obtain rfl := FieldDescriptor.fault_of_leaf descriptor fault resolves
            rfl

variable (keepsBlank : change .blank = .blank) (retells : retold.Retells change descriptor)

include keepsBlank retells

/-- Growing a tree and changing its notes commute. -/
theorem insertAt_retold (segments : List String) (tree : TypeTree) :
    insertAt retold segments (tree.mapNotes change) =
      (insertAt descriptor segments tree).mapNotes change := by
  induction segments generalizing tree with
  | nil => exact attach_retold retells "" tree
  | cons segment rest inductionHypothesis =>
      cases rest with
      | nil => exact attach_retold retells segment tree
      | cons next rest =>
          unfold insertAt
          rw [retells.path]
          split
          · cases tree with
            | scalar kind note | opaqueJson note | object properties note => rfl
            | array element arrayNote =>
                cases element with
                | scalar kind note | opaqueJson note | array element note => rfl
                | object properties note =>
                    have below := inductionHypothesis (object properties note)
                    simp only [mapNotes] at below ⊢
                    rw [below]
                    rfl
          · cases tree with
            | scalar kind note | opaqueJson note | array element note => rfl
            | object properties note =>
                simp only [mapNotes, property?_mapPropertyNotes]
                cases property? segment properties with
                | some child =>
                    simp only [Option.map_some, inductionHypothesis child]
                    simp [Growth.mapNotes, Growth.lift, mapNotes, mapPropertyNotes_setProperty]
                | none =>
                    have below := inductionHypothesis (synthesized (next :: rest))
                    rw [mapNotes_synthesized change keepsBlank] at below
                    simp only [Option.map_none, below]
                    simp [Growth.mapNotes, Growth.lift, Growth.after, mapNotes,
                      mapPropertyNotes_setProperty]

/-- A descriptor that is told in changed notes grows the changed tree in the same way. -/
theorem insert_retold (tree : TypeTree) :
    insert retold (tree.mapNotes change) = (insert descriptor tree).mapNotes change := by
  have sameSegments : retold.segments = descriptor.segments := by
    rw [FieldDescriptor.segments, retells.path, FieldDescriptor.segments]
  rw [insert, sameSegments]
  exact insertAt_retold keepsBlank retells descriptor.segments tree

end

section

variable
  {change : Note → Note}
  (keepsBlank : change .blank = .blank)
  (retell : FieldDescriptor → FieldDescriptor)
  (descriptors : List FieldDescriptor)
  (retells : ∀ descriptor ∈ descriptors, (retell descriptor).Retells change descriptor)

include keepsBlank retells

/-- A run of retold insertions is the run with changed notes. -/
theorem insertAll_retold (tree : TypeTree) :
    insertAll (descriptors.map retell) (tree.mapNotes change) =
      (insertAll descriptors tree).mapNotes change := by
  induction descriptors generalizing tree with
  | nil => rfl
  | cons descriptor rest inductionHypothesis =>
      have first := insert_retold keepsBlank (retells descriptor (by simp)) tree
      have others := inductionHypothesis (fun other isThere => retells other (by simp [isThere]))
        (insert descriptor tree).tree
      rw [List.map_cons, insertAll, insertAll, first]
      cases refused : (insert descriptor tree).fault with
      | some fault => simp [Growth.mapNotes, refused]
      | none =>
          simp only [Growth.mapNotes, refused, Option.map_none] at others ⊢
          rw [others]

/-- Retold descriptors build the tree with changed notes. -/
theorem build_retold :
    build (descriptors.map retell) = (build descriptors).mapNotes change := by
  have sameDepth (descriptor : FieldDescriptor) (isThere : descriptor ∈ descriptors) :
      (retell descriptor).depth = descriptor.depth := by
    rw [FieldDescriptor.depth, (retells descriptor isThere).path, FieldDescriptor.depth]
  have sameOrder : byDepth (descriptors.map retell) = (byDepth descriptors).map retell := by
    refine (List.map_mergeSort fun left isLeft right isRight => ?_).symm
    rw [sameDepth left isLeft, sameDepth right isRight]
  have retellsSorted : ∀ descriptor ∈ byDepth descriptors,
      (retell descriptor).Retells change descriptor :=
    fun descriptor isThere => retells descriptor (List.mem_mergeSort.mp isThere)
  have run := insertAll_retold keepsBlank retell (byDepth descriptors) retellsSorted emptyObject
  rw [mapNotes_emptyObject change keepsBlank] at run
  rw [build, build, sameOrder, run]

end

end TypeTree
end ProtocolTypes
