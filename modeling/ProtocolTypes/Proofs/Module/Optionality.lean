import ProtocolTypes.Proofs.Module.Declarations
import ProtocolTypes.Proofs.TypeTree.Coverage
import ProtocolTypes.Proofs.TypeTree.Invariant
import ProtocolTypes.Proofs.TypeTree.Notes

/-!
# What is said about leaving a field out

Optionality, restrictions and defaults are matters of requests.  The declaration of an event
or a response is the same whatever its records say about them, and so is its failure.  In a
request a flag shows as the mark of the node that the last record with its path declares, and
in nothing else (`optionality_is_heard_for_requests_only`).
-/

namespace ProtocolTypes

/-- The note without the mark that the node may be left out. -/
def Note.unmarked (note : Note) : Note := { note with optional := false }

theorem Note.unmarked_blank : Note.blank.unmarked = Note.blank := rfl

/-- The tree without the marks of its nodes. -/
def TypeTree.unmarked (tree : TypeTree) : TypeTree := tree.mapNotes Note.unmarked

namespace FieldDescriptor

/-- The descriptor without its flag. -/
def unmarked (descriptor : FieldDescriptor) : FieldDescriptor :=
  { descriptor with optional := none }

theorem leafNote_unmarked (descriptor : FieldDescriptor) :
    descriptor.unmarked.leafNote = descriptor.leafNote.unmarked := by
  have sameKind : descriptor.unmarked.kind = descriptor.kind := rfl
  rw [leafNote, leafNote, sameKind]
  cases descriptor.kind <;> rfl

/-- A flag decides about nothing but the mark of the leaf. -/
theorem unmarked_retells (descriptor : FieldDescriptor) :
    descriptor.unmarked.Retells Note.unmarked descriptor :=
  retells_of_leafNote Note.unmarked_blank rfl rfl descriptor.leafNote_unmarked

/-- The descriptor without all that is said about leaving the field out. -/
def unconditional (descriptor : FieldDescriptor) : FieldDescriptor :=
  { descriptor with optional := none, restrictions := none, defaultBehavior := none }

/-- What is told of conditions is heard for requests only. -/
theorem leafNote_unconditional
    (descriptor : FieldDescriptor)
    (noRequest : descriptor.kind ≠ .request) :
    descriptor.unconditional.leafNote = descriptor.leafNote := by
  have sameKind : descriptor.unconditional.kind = descriptor.kind := rfl
  rw [leafNote, leafNote, sameKind]
  cases kind : descriptor.kind with
  | request => exact absurd kind noRequest
  | event | response => rfl

/-- Outside of requests nothing that is said about leaving a field out decides anything. -/
theorem unconditional_retells
    (descriptor : FieldDescriptor)
    (noRequest : descriptor.kind ≠ .request) :
    descriptor.unconditional.Retells id descriptor :=
  retells_of_leafNote rfl rfl rfl (descriptor.leafNote_unconditional noRequest)

end FieldDescriptor

namespace FieldRecord

/-- The record without its flag. -/
def unmarked (field : FieldRecord) : FieldRecord := { field with optional := none }

/-- The record without all that it says about leaving the field out. -/
def unconditional (field : FieldRecord) : FieldRecord :=
  { field with optional := none, restrictions := none, optionalBehavior := none }

/-- The descriptor of a record without its flag is that of the record, without the flag. -/
theorem descriptor_unmarked (kind : EntityKind) (field : FieldRecord) :
    field.unmarked.descriptor kind = (field.descriptor kind).unmarked := by
  cases kind <;> rfl

theorem descriptor_unconditional (kind : EntityKind) (field : FieldRecord) :
    field.unconditional.descriptor kind = (field.descriptor kind).unconditional := by
  cases kind <;> rfl

theorem kind_descriptor (kind : EntityKind) (field : FieldRecord) :
    (field.descriptor kind).kind = kind := by
  cases kind <;> rfl

end FieldRecord

namespace TypeTree

/-- Outside of requests descriptors build the same tree without what they say about leaving
fields out. -/
theorem build_unconditional
    (descriptors : List FieldDescriptor)
    (noRequests : ∀ descriptor ∈ descriptors, descriptor.kind ≠ .request) :
    build (descriptors.map FieldDescriptor.unconditional) = build descriptors := by
  have retold : build (descriptors.map FieldDescriptor.unconditional) =
      (build descriptors).mapNotes id :=
    build_retold rfl FieldDescriptor.unconditional descriptors fun descriptor isThere =>
      descriptor.unconditional_retells (noRequests descriptor isThere)
  rw [retold, Growth.mapNotes_id]

/-- Descriptors without their flags build the tree without marks. -/
theorem build_unmarked (descriptors : List FieldDescriptor) :
    build (descriptors.map FieldDescriptor.unmarked) =
      (build descriptors).mapNotes Note.unmarked :=
  build_retold Note.unmarked_blank FieldDescriptor.unmarked descriptors
    fun descriptor _ => descriptor.unmarked_retells

/-! ## The marks of a tree -/

open FieldDescriptor

/-- The marks of the tree are the flags of the last descriptors with their paths; where no
path ends there is none. -/
structure MarkedBy (descriptors : List FieldDescriptor) (tree : TypeTree) : Prop where
  declared : ∀ descriptor ∈ descriptors, ∃ last node,
    lastAt? descriptors descriptor.position = some last ∧
      tree.at? descriptor.position = some node ∧
      node.note.optional = last.optional.getD false
  undeclared : ∀ position node,
    (∀ descriptor ∈ descriptors, descriptor.position ≠ position) →
    tree.at? position = some node → node.note.optional = false

/-- What is said about a leaf is said at its root. -/
theorem note_of_outline_leaf
    (descriptor : FieldDescriptor)
    (node : TypeTree)
    (isLeaf : descriptor.leaf = .ok node.outline) :
    node.note = descriptor.leafNote := by
  obtain ⟨declared, -, isOutline⟩ := (descriptor.leaf_eq_ok_iff node.outline).mp isLeaf
  rw [← note_outline, ← isOutline, note_withNote]

section

variable
  (descriptors : List FieldDescriptor)
  (tree : TypeTree)
  (built : (build descriptors).result = .ok tree)

include built

/-- Nothing is said about the elements of arrays. -/
theorem note_element_of_build
    (front : List Step)
    (node : TypeTree)
    (found : tree.at? (front ++ [.element]) = some node) :
    node.note = .blank := by
  have sound : (build descriptors).tree.Sound :=
    holds_build descriptors (fun descriptor _ => sound_keptByInsertion descriptor)
      sound_emptyObject
  rw [((Growth.result_eq_ok_iff _ tree).mp built).2] at sound
  exact sound.note_element found

/-- Nothing is said about a node at which no path ends. -/
theorem note_of_undeclared
    (position : List Step)
    (undeclared : ∀ descriptor ∈ descriptors, descriptor.position ≠ position)
    (node : TypeTree)
    (found : tree.at? position = some node) :
    node.note = .blank := by
  have describes := describes_of_build descriptors tree built
  rcases List.eq_nil_or_concat position with rfl | ⟨front, step, rfl⟩
  · obtain rfl := Option.some.inj found
    rw [← note_outline, describes.root]
    rfl
  · rw [List.concat_eq_append] at found undeclared
    cases step with
    | element => exact note_element_of_build descriptors tree built front node found
    | member name =>
        have noLast : lastAt? (byDepth descriptors) (front ++ [.member name]) = none := by
          rw [lastAt?_byDepth, lastAt?_eq_none_iff]
          exact undeclared
        obtain ⟨made, -, isContainer⟩ := describes.containers_agree found noLast
        rw [← note_outline, isContainer, note_containerFor]

/-- The flags of requests' descriptors are the marks of the tree that they build. -/
theorem markedBy_of_build
    (areRequests : ∀ descriptor ∈ descriptors, descriptor.kind = .request) :
    MarkedBy descriptors tree where
  declared := by
    intro descriptor isThere
    obtain ⟨last, isLast⟩ := exists_lastAt?_of_mem isThere
    obtain ⟨node, found, isLeaf⟩ :=
      (describes_of_build descriptors tree built).declared descriptor.position last
        (by rw [lastAt?_byDepth, isLast])
    refine ⟨last, node, isLast, found, ?_⟩
    rw [note_of_outline_leaf last node isLeaf, leafNote,
      areRequests last (mem_of_lastAt? isLast).1]
  undeclared := by
    intro position node undeclared found
    rw [note_of_undeclared descriptors tree built position undeclared node found]
    rfl

end

end TypeTree

namespace Entity

/-- Two entities that both fail, and report the same, or that both compile, and whose type
trees differ in nothing but the marks that their own flags make. -/
inductive DiffersInMarks (left right : Entity) : Prop
  | failed
      (leftFailure rightFailure : SchemaFailure)
      (leftFails : left.declaration = .error leftFailure)
      (rightFails : right.declaration = .error rightFailure)
      (sameReport : leftFailure.report = rightFailure.report)
  | compiled
      (leftText rightText : String)
      (leftCompiles : left.declaration = .ok leftText)
      (rightCompiles : right.declaration = .ok rightText)
      (leftTree rightTree : TypeTree)
      (leftBuilt : left.growth.result = .ok leftTree)
      (rightBuilt : right.growth.result = .ok rightTree)
      (sameUnmarked : leftTree.unmarked = rightTree.unmarked)
      (leftMarks : TypeTree.MarkedBy left.descriptors leftTree)
      (rightMarks : TypeTree.MarkedBy right.descriptors rightTree)

/-- All descriptors of an entity are of its kind. -/
theorem kind_of_mem_descriptors
    (entity : Entity)
    (descriptor : FieldDescriptor)
    (isThere : descriptor ∈ entity.descriptors) :
    descriptor.kind = entity.kind := by
  obtain ⟨field, -, rfl⟩ := List.mem_map.mp isThere
  exact field.kind_descriptor entity.kind

/-- Records that agree but for what they say about leaving fields out make the same growth,
outside of requests. -/
theorem growth_eq_of_unconditional
    (kind : EntityKind)
    (noRequest : kind ≠ .request)
    (name : String)
    (left right : List FieldRecord)
    (alike : left.map FieldRecord.unconditional = right.map FieldRecord.unconditional) :
    (Entity.mk kind name left).growth = (Entity.mk kind name right).growth := by
  have bare (fields : List FieldRecord) :
      (Entity.mk kind name fields).growth =
        TypeTree.build ((fields.map FieldRecord.unconditional).map (FieldRecord.descriptor kind)) := by
    have noRequests : ∀ descriptor ∈ (Entity.mk kind name fields).descriptors,
        descriptor.kind ≠ .request := by
      intro descriptor isThere
      rwa [kind_of_mem_descriptors _ descriptor isThere]
    rw [growth, ← TypeTree.build_unconditional _ noRequests]
    simp only [descriptors, List.map_map, Function.comp_def, FieldRecord.descriptor_unconditional]
  rw [bare left, bare right, alike]

/-- Outside of requests the compilation is the same whatever is said about leaving fields
out. -/
theorem compile_eq_of_unconditional
    (kind : EntityKind)
    (noRequest : kind ≠ .request)
    (name : String)
    (left right : List FieldRecord)
    (alike : left.map FieldRecord.unconditional = right.map FieldRecord.unconditional) :
    (Entity.mk kind name left).compile = (Entity.mk kind name right).compile := by
  have sameGrowth := growth_eq_of_unconditional kind noRequest name left right alike
  have sameLength : left.length = right.length := by simpa using congrArg List.length alike
  have sameEmpty : left.isEmpty = right.isEmpty := by simpa using congrArg List.isEmpty alike
  simp only [compile, records, declaration, sameGrowth, sameEmpty, sameLength, label]

/-- Records of a request without their flags make its growth without marks. -/
theorem growth_unmarked (name : String) (fields : List FieldRecord) :
    (Entity.mk .request name (fields.map FieldRecord.unmarked)).growth =
      (Entity.mk .request name fields).growth.mapNotes Note.unmarked := by
  rw [growth, growth, ← TypeTree.build_unmarked]
  simp only [descriptors, List.map_map, Function.comp_def, FieldRecord.descriptor_unmarked]

/-- Records of a request that agree but for their flags fail alike, or make type trees that
agree but for their marks. -/
theorem differsInMarks_of_unmarked
    (name : String)
    (left right : List FieldRecord)
    (alike : left.map FieldRecord.unmarked = right.map FieldRecord.unmarked) :
    DiffersInMarks (Entity.mk .request name left) (Entity.mk .request name right) := by
  have sameGrowth : (Entity.mk .request name left).growth.mapNotes Note.unmarked =
      (Entity.mk .request name right).growth.mapNotes Note.unmarked := by
    rw [← growth_unmarked, ← growth_unmarked, alike]
  have sameFault := congrArg Growth.fault sameGrowth
  simp only [Growth.mapNotes] at sameFault
  cases refused : (Entity.mk .request name left).growth.fault with
  | some fault =>
      rw [refused, Option.map_some, eq_comm, Option.map_eq_some_iff] at sameFault
      obtain ⟨other, otherRefused, sameUnmarked⟩ := sameFault
      refine .failed _ _ (declaration_of_fault _ fault refused)
        (declaration_of_fault _ other otherRefused) ?_
      rw [← SchemaFailure.report_mapNotes Note.unmarked fault, ← sameUnmarked,
        SchemaFailure.report_mapNotes]
      rfl
  | none =>
      have otherGrows : (Entity.mk .request name right).growth.fault = none := by
        rw [refused] at sameFault
        exact Option.map_eq_none_iff.mp sameFault.symm
      obtain ⟨leftText, leftCompiles⟩ := exists_declaration _ refused
      obtain ⟨rightText, rightCompiles⟩ := exists_declaration _ otherGrows
      have leftBuilt := (Growth.result_eq_ok_iff _ _).mpr ⟨refused, rfl⟩
      have rightBuilt := (Growth.result_eq_ok_iff _ _).mpr ⟨otherGrows, rfl⟩
      exact .compiled leftText rightText leftCompiles rightCompiles _ _ leftBuilt rightBuilt
        (congrArg Growth.tree sameGrowth)
        (TypeTree.markedBy_of_build _ _ leftBuilt (kind_of_mem_descriptors _))
        (TypeTree.markedBy_of_build _ _ rightBuilt (kind_of_mem_descriptors _))

/-- What is said about leaving fields out is heard for requests only, where a flag makes the
mark of the node that the last record with its path declares. -/
theorem optionality_is_heard_for_requests_only :
    (∀ (kind : EntityKind) (name : String) (left right : List FieldRecord),
        kind ≠ .request →
        left.map FieldRecord.unconditional = right.map FieldRecord.unconditional →
        (Entity.mk kind name left).compile = (Entity.mk kind name right).compile) ∧
      (∀ left right : List FieldDescriptor,
        (∀ descriptor ∈ left, descriptor.kind ≠ .request) →
        left.map FieldDescriptor.unconditional = right.map FieldDescriptor.unconditional →
        TypeTree.build left = TypeTree.build right) ∧
      ∀ (name : String) (left right : List FieldRecord),
        left.map FieldRecord.unmarked = right.map FieldRecord.unmarked →
        DiffersInMarks (Entity.mk .request name left) (Entity.mk .request name right) := by
  refine ⟨fun kind name left right noRequest => ?_, ?_, differsInMarks_of_unmarked⟩
  · exact compile_eq_of_unconditional kind noRequest name left right
  · intro left right noRequests alike
    have noRequestsRight : ∀ descriptor ∈ right, descriptor.kind ≠ .request := by
      intro descriptor isThere
      obtain ⟨twin, isTwin, sameBare⟩ :=
        List.mem_map.mp (alike ▸ List.mem_map_of_mem isThere :
          descriptor.unconditional ∈ left.map FieldDescriptor.unconditional)
      have sameKind := congrArg FieldDescriptor.kind sameBare
      change twin.kind = descriptor.kind at sameKind
      exact sameKind ▸ noRequests twin isTwin
    rw [← TypeTree.build_unconditional left noRequests, alike,
      TypeTree.build_unconditional right noRequestsRight]

/-- A number with that flag and that restriction. -/
def levelField (optional : Option Bool) (restrictions : Option String) : FieldRecord :=
  { name := "level.value", declaredType := "Number", optional, restrictions }

theorem levelField_is_heard_for_requests_only :
    (Entity.mk .event "Moved" [levelField (some true) (some "not negative")]).compile =
        (Entity.mk .event "Moved" [levelField none none]).compile ∧
      TypeTree.build [(levelField (some true) (some "not negative")).descriptor .response] =
        TypeTree.build [(levelField none none).descriptor .response] ∧
      DiffersInMarks
        (Entity.mk .request "Move" [levelField (some true) none, levelField none none])
        (Entity.mk .request "Move" [levelField none none, levelField (some true) none]) :=
  ⟨optionality_is_heard_for_requests_only.1 .event "Moved" _ _ (by decide) rfl,
    optionality_is_heard_for_requests_only.2.1 _ _ (by decide) rfl,
    optionality_is_heard_for_requests_only.2.2 "Move" _ _ rfl⟩

end Entity
end ProtocolTypes
