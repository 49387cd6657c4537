import ProtocolTypes.Proofs.TypeTree.Locality

/-!
# What holds of every name and note

A tree takes its names from paths and its notes from descriptors; the containers that it is
given on the way have neither.  A condition that all names and notes of the descriptors meet
is therefore met everywhere in the tree that they build (`everywhere_build`).
-/

namespace ProtocolTypes

/-- The names and the note that a descriptor has for a tree meet these conditions. -/
structure FieldDescriptor.Brings
    (names : String → Prop)
    (notes : Note → Prop)
    (descriptor : FieldDescriptor) : Prop where
  segments : ∀ segment ∈ descriptor.segments, names segment
  leafNote : notes descriptor.leafNote

namespace TypeTree

variable {names : String → Prop} {notes : Note → Prop}

mutual

/-- Every name and every note in the tree meets its condition. -/
def Everywhere (names : String → Prop) (notes : Note → Prop) : TypeTree → Prop
  | scalar _ note => notes note
  | opaqueJson note => notes note
  | object properties note => notes note ∧ EverywhereBelow names notes properties
  | array element note => notes note ∧ Everywhere names notes element

@[inherit_doc Everywhere]
def EverywhereBelow (names : String → Prop) (notes : Note → Prop) :
    List (String × TypeTree) → Prop
  | [] => True
  | (name, tree) :: rest =>
    names name ∧ Everywhere names notes tree ∧ EverywhereBelow names notes rest

end

theorem Everywhere.note {tree : TypeTree} (holds : tree.Everywhere names notes) :
    notes tree.note := by
  cases tree with
  | scalar kind note => exact holds
  | opaqueJson note => exact holds
  | object properties note => exact holds.1
  | array element note => exact holds.1

theorem Everywhere.withNote
    {tree : TypeTree}
    (holds : tree.Everywhere names notes)
    {note : Note}
    (meets : notes note) :
    (tree.withNote note).Everywhere names notes := by
  cases tree with
  | scalar kind old => exact meets
  | opaqueJson old => exact meets
  | object properties old => exact ⟨meets, holds.2⟩
  | array element old => exact ⟨meets, holds.2⟩

theorem EverywhereBelow.property?
    {properties : List (String × TypeTree)}
    (hold : EverywhereBelow names notes properties)
    {name : String}
    {child : TypeTree}
    (isThere : property? name properties = some child) :
    child.Everywhere names notes := by
  induction properties with
  | nil => simp [TypeTree.property?] at isThere
  | cons property rest inductionHypothesis =>
      obtain ⟨other, tree⟩ := property
      obtain ⟨-, treeHolds, restHold⟩ := hold
      rw [TypeTree.property?] at isThere
      split at isThere
      · obtain rfl := Option.some.inj isThere
        exact treeHolds
      · exact inductionHypothesis restHold isThere

theorem EverywhereBelow.setProperty
    {properties : List (String × TypeTree)}
    (hold : EverywhereBelow names notes properties)
    {name : String}
    (meets : names name)
    {tree : TypeTree}
    (holds : tree.Everywhere names notes) :
    EverywhereBelow names notes (setProperty name tree properties) := by
  induction properties with
  | nil => exact ⟨meets, holds, trivial⟩
  | cons property rest inductionHypothesis =>
      obtain ⟨other, old⟩ := property
      obtain ⟨otherMeets, oldHolds, restHold⟩ := hold
      rw [TypeTree.setProperty]
      split
      · exact ⟨meets, holds, restHold⟩
      · exact ⟨otherMeets, oldHolds, inductionHypothesis restHold⟩

section Growing

variable (blank : notes .blank)

include blank

theorem everywhere_emptyObject : emptyObject.Everywhere names notes := ⟨blank, trivial⟩

theorem everywhere_synthesized (segments : List String) :
    (synthesized segments).Everywhere names notes := by
  unfold synthesized
  split
  · split
    · exact ⟨blank, everywhere_emptyObject blank⟩
    · exact everywhere_emptyObject blank
  · exact everywhere_emptyObject blank

theorem everywhere_tree (declared : DeclaredType) : declared.tree.Everywhere names notes := by
  obtain ⟨depth, base⟩ := declared
  rw [DeclaredType.tree]
  induction depth with
  | zero =>
      cases base with
      | object => exact everywhere_emptyObject blank
      | _ => exact blank
  | succ depth inductionHypothesis => exact ⟨blank, inductionHypothesis⟩

/-- Growing keeps what holds everywhere, also where the descriptor is refused on the way. -/
theorem everywhere_keptByInsertion
    (descriptor : FieldDescriptor)
    (brings : descriptor.Brings names notes) :
    KeptByInsertion descriptor (Everywhere names notes) where
  leaf := by
    intro leaf resolves
    obtain ⟨declared, -, rfl⟩ := (descriptor.leaf_eq_ok_iff leaf).mp resolves
    exact (everywhere_tree blank declared).withNote brings.leafNote
  container := everywhere_synthesized blank
  child := fun _ _ _ _ holds isThere => holds.2.property? isThere
  element := fun _ _ holds => holds.2
  setChild := fun _ _ name _ isSegment _ holds childHolds =>
    ⟨holds.1, holds.2.setProperty (brings.segments name isSegment) childHolds⟩
  setElement := fun _ _ _ _ holds laterHolds => ⟨holds.1, laterHolds⟩

/-- What the descriptors bring holds everywhere in the tree that they build. -/
theorem everywhere_build
    (descriptors : List FieldDescriptor)
    (bring : ∀ descriptor ∈ descriptors, descriptor.Brings names notes) :
    (build descriptors).tree.Everywhere names notes :=
  holds_build descriptors
    (fun descriptor isThere => everywhere_keptByInsertion blank descriptor (bring descriptor isThere))
    (everywhere_emptyObject blank)

end Growing
end TypeTree
end ProtocolTypes
