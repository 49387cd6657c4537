import ProtocolTypes.Proofs.TypeTree.Locality

/-!
# What holds of every tree that insertions make

Descriptors are inserted one after another, in any order, and the work goes on after a
refusal.  Two things hold of every tree that comes about in this way.  It is sound: names
are what a path can name, nothing is said about the elements of arrays, and there is
nothing inside an array of arrays but what a declared type puts there (`Sound`).  And what
is said about a member is said by the descriptor that attached it (`AttachedBy`), so only a
request's descriptor makes a member optional.
-/

namespace ProtocolTypes
namespace TypeTree

open FieldDescriptor

/-- The tree after all of the descriptors, those that are refused included. -/
def insertEach (descriptors : List FieldDescriptor) (tree : TypeTree) : TypeTree :=
  descriptors.foldl (fun tree descriptor => (insert descriptor tree).tree) tree

/-- The last descriptor is inserted into the tree of those before. -/
theorem insertEach_append_singleton
    (descriptors : List FieldDescriptor)
    (descriptor : FieldDescriptor)
    (tree : TypeTree) :
    insertEach (descriptors ++ [descriptor]) tree =
      (insert descriptor (insertEach descriptors tree)).tree := by
  simp [insertEach]

/-! ## Sound trees -/

/-- Nothing but arrays around a scalar, an opaque value or an object without properties. -/
def Bare : TypeTree → Prop
  | scalar _ _ => True
  | opaqueJson _ => True
  | object properties _ => properties = []
  | array element _ => element.Bare

mutual

/-- Every array element goes without a note, and if it is an array it is bare; the
properties of every object are sound. -/
def Sound : TypeTree → Prop
  | scalar _ _ => True
  | opaqueJson _ => True
  | object properties _ => SoundProperties properties
  | array element _ =>
    element.note = .blank ∧ ((∃ inner note, element = array inner note) → element.Bare) ∧
      Sound element

/-- The names are different from each other, have no dot and are not the wildcard; the
trees are sound. -/
def SoundProperties : List (String × TypeTree) → Prop
  | [] => True
  | (name, tree) :: rest =>
    ('.' ∉ name.toList ∧ name ≠ wildcard ∧ name ∉ propertyNames rest) ∧ Sound tree ∧
      SoundProperties rest

end

theorem sound_emptyObject : emptyObject.Sound := trivial

/-- A note changes nothing in what makes a tree sound. -/
theorem Sound.withNote
    {tree : TypeTree}
    (sound : tree.Sound)
    (note : Note) :
    (tree.withNote note).Sound := by
  cases tree with
  | scalar kind old => exact sound
  | opaqueJson old => exact sound
  | object properties old => exact sound
  | array element old => exact sound

/-- Nothing of what a declared type stands for has a note. -/
theorem bare_wrap (depth : Nat) (base : BaseType) : (DeclaredType.wrap depth base.tree).Bare := by
  induction depth with
  | zero => cases base <;> simp [DeclaredType.wrap, BaseType.tree, emptyObject, Bare]
  | succ depth inductionHypothesis => exact inductionHypothesis

theorem note_wrap (depth : Nat) (base : BaseType) :
    (DeclaredType.wrap depth base.tree).note = .blank := by
  cases depth with
  | zero => cases base <;> rfl
  | succ depth => rfl

theorem sound_wrap (depth : Nat) (base : BaseType) :
    (DeclaredType.wrap depth base.tree).Sound := by
  induction depth with
  | zero => cases base <;> trivial
  | succ depth inductionHypothesis =>
      exact ⟨note_wrap depth base, fun _ => bare_wrap depth base, inductionHypothesis⟩

/-- A leaf is sound. -/
theorem sound_leaf
    (descriptor : FieldDescriptor)
    (leaf : TypeTree)
    (resolves : descriptor.leaf = .ok leaf) :
    leaf.Sound := by
  obtain ⟨declared, _, rfl⟩ := (descriptor.leaf_eq_ok_iff leaf).mp resolves
  exact (sound_wrap declared.depth declared.base).withNote descriptor.leafNote

/-- The containers that an insertion makes are sound. -/
theorem sound_synthesized (segments : List String) : (synthesized segments).Sound := by
  unfold synthesized
  split
  · split
    · exact ⟨rfl, by simp [emptyObject], sound_emptyObject⟩
    · exact sound_emptyObject
  · exact sound_emptyObject

/-- Each property of sound properties is sound. -/
theorem SoundProperties.property?
    {properties : List (String × TypeTree)}
    (sound : SoundProperties properties)
    {name : String}
    {child : TypeTree}
    (isThere : property? name properties = some child) :
    child.Sound := by
  induction properties with
  | nil => cases isThere
  | cons property rest inductionHypothesis =>
      obtain ⟨other, tree⟩ := property
      obtain ⟨_, treeSound, restSound⟩ := sound
      rw [TypeTree.property?] at isThere
      split at isThere
      · obtain rfl := Option.some.inj isThere
        exact treeSound
      · exact inductionHypothesis restSound isThere

/-- A sound tree under a proper name keeps properties sound. -/
theorem SoundProperties.setProperty
    {properties : List (String × TypeTree)}
    (sound : SoundProperties properties)
    {name : String}
    (noDot : '.' ∉ name.toList)
    (named : name ≠ wildcard)
    {tree : TypeTree}
    (treeSound : tree.Sound) :
    SoundProperties (setProperty name tree properties) := by
  induction properties with
  | nil => exact ⟨⟨noDot, named, by simp [propertyNames]⟩, treeSound, trivial⟩
  | cons property rest inductionHypothesis =>
      obtain ⟨other, old⟩ := property
      obtain ⟨⟨otherNoDot, otherNamed, otherNew⟩, oldSound, restSound⟩ := sound
      rw [TypeTree.setProperty]
      split
      · next same => exact ⟨⟨noDot, named, same ▸ otherNew⟩, treeSound, restSound⟩
      · next different =>
          refine ⟨⟨otherNoDot, otherNamed, ?_⟩, oldSound, inductionHypothesis restSound⟩
          rw [propertyNames_setProperty, withStep]
          split
          · exact otherNew
          · simp [otherNew, different]

/-! ## Insertions keep a tree sound -/

/-- Each step of an insertion keeps a tree sound. -/
theorem sound_keptByInsertion (descriptor : FieldDescriptor) :
    KeptByInsertion descriptor Sound where
  leaf := sound_leaf descriptor
  container := sound_synthesized
  child := fun _ _ _ _ sound isThere => SoundProperties.property? sound isThere
  element := fun _ _ sound => sound.2.2
  setChild := fun _ _ name _ isSegment named sound childSound =>
    SoundProperties.setProperty sound (descriptor.not_mem_of_mem_segments name isSegment) named
      childSound
  setElement := fun _ _ _ _ sound laterSound => ⟨sound.1, by simp, laterSound⟩

/-- Trees of insertions are sound, whatever insertions were refused. -/
theorem sound_insertEach (descriptors : List FieldDescriptor) :
    (insertEach descriptors emptyObject).Sound := by
  induction descriptors using List.reverseRecOn with
  | nil => exact sound_emptyObject
  | append_singleton descriptors descriptor inductionHypothesis =>
      rw [insertEach_append_singleton]
      exact (sound_keptByInsertion descriptor).holds_insert _ inductionHypothesis

/-- The root stays an object about which nothing is said. -/
theorem exists_root_of_insertEach (descriptors : List FieldDescriptor) :
    ∃ properties, insertEach descriptors emptyObject = object properties .blank := by
  induction descriptors using List.reverseRecOn with
  | nil => exact ⟨[], rfl⟩
  | append_singleton descriptors descriptor inductionHypothesis =>
      obtain ⟨properties, isRoot⟩ := inductionHypothesis
      rw [insertEach_append_singleton, isRoot]
      exact exists_object_of_insertAt descriptor descriptor.segments properties .blank

/-- Whatever lies below a sound tree is sound. -/
theorem Sound.at?
    {tree : TypeTree}
    (sound : tree.Sound)
    {position : List Step}
    {node : TypeTree}
    (found : tree.at? position = some node) :
    node.Sound := by
  induction position generalizing tree with
  | nil => exact Option.some.inj found ▸ sound
  | cons step rest inductionHypothesis =>
      obtain ⟨child, isChild, below⟩ := Option.bind_eq_some_iff.mp found
      refine inductionHypothesis ?_ below
      cases tree with
      | object properties note =>
          cases step with
          | member name => exact SoundProperties.property? sound isChild
          | element => cases isChild
      | array element note =>
          cases step with
          | member name => cases isChild
          | element => exact Option.some.inj isChild ▸ sound.2.2
      | scalar kind note | opaqueJson note => cases step <;> cases isChild

/-- Nothing is said about the elements of a sound tree. -/
theorem Sound.note_element
    {tree : TypeTree}
    (sound : tree.Sound)
    {front : List Step}
    {node : TypeTree}
    (found : tree.at? (front ++ [.element]) = some node) :
    node.note = .blank := by
  rw [at?_append_singleton, Option.bind_eq_some_iff] at found
  obtain ⟨parent, isParent, isElement⟩ := found
  cases parent with
  | array element note => exact Option.some.inj isElement ▸ (sound.at? isParent).1
  | scalar kind note | opaqueJson note | object properties note => cases isElement

/-! ## Who said it -/

/-- The descriptor is accepted when it is inserted after the others. -/
def AcceptedAfter (earlier : List FieldDescriptor) (descriptor : FieldDescriptor) : Prop :=
  (insert descriptor (insertEach earlier emptyObject)).fault = none

/-- The descriptor attached the node at the position: it was accepted there, and since then
none was accepted whose path ends at the position or above it. -/
def AttachedBy
    (descriptors : List FieldDescriptor)
    (position : List Step)
    (descriptor : FieldDescriptor) :
    Prop :=
  ∃ earlier later, descriptors = earlier ++ descriptor :: later ∧
    AcceptedAfter earlier descriptor ∧ descriptor.position = position ∧
    ∀ between other rest, later = between ++ other :: rest →
      AcceptedAfter (earlier ++ descriptor :: between) other → ¬other.position <+: position

/-- An accepted descriptor attaches the node at the end of its path. -/
theorem attachedBy_append_self
    {descriptors : List FieldDescriptor}
    {descriptor : FieldDescriptor}
    (accepted : AcceptedAfter descriptors descriptor) :
    AttachedBy (descriptors ++ [descriptor]) descriptor.position descriptor :=
  ⟨descriptors, [], rfl, accepted, rfl, by simp⟩

/-- A node stays attached by its descriptor as long as the later ones spare it. -/
theorem AttachedBy.append_singleton
    {descriptors : List FieldDescriptor}
    {position : List Step}
    {descriptor last : FieldDescriptor}
    (attached : AttachedBy descriptors position descriptor)
    (spared : AcceptedAfter descriptors last → ¬last.position <+: position) :
    AttachedBy (descriptors ++ [last]) position descriptor := by
  obtain ⟨earlier, later, rfl, accepted, ends, since⟩ := attached
  refine ⟨earlier, later ++ [last], by simp, accepted, ends, ?_⟩
  intro between other rest split
  rcases List.eq_nil_or_concat rest with rfl | ⟨front, final, rfl⟩
  · obtain ⟨rfl, isLast⟩ := List.append_inj' split rfl
    rw [← List.singleton_inj.mp isLast]
    exact spared
  · have whole : later ++ [last] = (between ++ other :: front) ++ [final] := by simpa using split
    exact since between other front (List.append_inj' whole rfl).1

theorem note_outline (tree : TypeTree) : tree.outline.note = tree.note := by
  cases tree <;> rfl

theorem note_containerFor (step : Step) : (containerFor step).note = .blank := by
  cases step <;> rfl

/-- Nothing is said about the containers of a chain. -/
theorem note_at?_chain
    (reach position : List Step)
    (node : TypeTree)
    (found : (chain reach).at? position = some node) :
    node.note = .blank := by
  induction reach generalizing position with
  | nil =>
      cases position with
      | nil => exact Option.some.inj found ▸ rfl
      | cons step rest =>
          rw [chain, at?_emptyObject_cons] at found
          cases found
  | cons made reach inductionHypothesis =>
      cases position with
      | nil => cases made <;> exact Option.some.inj found ▸ rfl
      | cons step rest =>
          obtain ⟨child, isChild, below⟩ := Option.bind_eq_some_iff.mp found
          refine inductionHypothesis rest ?_
          cases made with
          | element =>
              cases step with
              | member name => cases isChild
              | element => exact Option.some.inj isChild ▸ below
          | member name =>
              cases step with
              | element => cases isChild
              | member other =>
                  simp only [chain, child?, property?] at isChild
                  split at isChild
                  · exact Option.some.inj isChild ▸ below
                  · cases isChild

/-- A node of a grown tree is one of the leaf, or what is said about it was said before. -/
theorem Grows.note_eq
    {leaf tree grown : TypeTree}
    {path position : List Step}
    (grows : Grows leaf path tree grown)
    {node : TypeTree}
    (found : grown.at? position = some node) :
    (∃ below, path ++ below = position ∧ leaf.at? below = some node) ∨
      ¬path <+: position ∧
        (node.note = .blank ∨ ∃ before, tree.at? position = some before ∧
          before.note = node.note) := by
  rcases below_or_above_or_apart position path with
    ⟨below, rfl⟩ | ⟨step, back, split⟩ | ⟨notAbove, notBelow⟩
  · exact .inl ⟨below, rfl, grows.at?_append below ▸ found⟩
  · right
    constructor
    · intro isPrefix
      have lengths := isPrefix.length_le
      rw [← split, List.length_append, List.length_cons] at lengths
      omega
    · obtain ⟨after, isAfter, sameOutline, _⟩ := grows.at?_above position step back split
      obtain rfl := Option.some.inj (found.symm.trans isAfter)
      have sameNote := congrArg TypeTree.note sameOutline
      rw [note_outline, note_outline] at sameNote
      cases wasThere : tree.at? position with
      | none =>
          rw [wasThere, Option.getD_none, note_containerFor] at sameNote
          exact .inl sameNote
      | some before =>
          rw [wasThere, Option.getD_some] at sameNote
          exact .inr ⟨before, rfl, sameNote.symm⟩
  · exact .inr ⟨notBelow, .inr ⟨node, grows.at?_of_apart position notAbove notBelow ▸ found, rfl⟩⟩

/-- What is said about a node after a refusal was said before. -/
theorem Leftover.note_eq
    {before after : TypeTree}
    {path position : List Step}
    (leftover : Leftover path before after)
    {node : TypeTree}
    (found : after.at? position = some node) :
    node.note = .blank ∨ ∃ old, before.at? position = some old ∧ old.note = node.note := by
  cases leftover with
  | nothing => exact .inr ⟨node, found, rfl⟩
  | containers front reach back name next split isParent absent grows =>
      rcases grows.note_eq found with ⟨below, _, inChain⟩ | ⟨_, said⟩
      · exact .inl (note_at?_chain reach below node inChain)
      · exact said

/-- Below the top of a leaf nothing is said. -/
theorem note_at?_leaf
    (descriptor : FieldDescriptor)
    (leaf : TypeTree)
    (resolves : descriptor.leaf = .ok leaf)
    (below : List Step)
    (node : TypeTree)
    (found : leaf.at? below = some node) :
    node.note = .blank ∨ below = [] ∧ node.note = descriptor.leafNote := by
  rcases List.eq_nil_or_concat below with rfl | ⟨front, step, rfl⟩
  · obtain ⟨declared, _, rfl⟩ := (leaf_eq_ok_iff descriptor leaf).mp resolves
    exact .inr ⟨rfl, Option.some.inj found ▸ note_withNote _ _⟩
  · rw [List.concat_eq_append] at found
    cases step with
    | element => exact .inl ((sound_leaf descriptor leaf resolves).note_element found)
    | member name =>
        rw [← outline_leaf descriptor leaf resolves, at?_outline_append_member] at found
        cases found

/-- What is said about a node is what the descriptor that attached it says, if anything. -/
theorem note_blank_or_attached
    (descriptors : List FieldDescriptor)
    (position : List Step)
    (node : TypeTree)
    (found : (insertEach descriptors emptyObject).at? position = some node) :
    node.note = .blank ∨
      ∃ descriptor, AttachedBy descriptors position descriptor ∧
        node.note = descriptor.leafNote := by
  induction descriptors using List.reverseRecOn generalizing position node with
  | nil => exact .inl (note_at?_chain [] position node found)
  | append_singleton descriptors last inductionHypothesis =>
      have kept (spared : AcceptedAfter descriptors last → ¬last.position <+: position)
          (said : node.note = .blank ∨ ∃ before,
            (insertEach descriptors emptyObject).at? position = some before ∧
              before.note = node.note) :
          node.note = .blank ∨
            ∃ descriptor, AttachedBy (descriptors ++ [last]) position descriptor ∧
              node.note = descriptor.leafNote := by
        rcases said with blank | ⟨before, wasThere, sameNote⟩
        · exact .inl blank
        · rw [← sameNote]
          refine (inductionHypothesis position before wasThere).imp_right ?_
          rintro ⟨descriptor, attached, said⟩
          exact ⟨descriptor, attached.append_singleton spared, said⟩
      rw [insertEach_append_singleton] at found
      cases outcome : (insert last (insertEach descriptors emptyObject)).fault with
      | none =>
          obtain ⟨leaf, resolves, grows⟩ := (insert_eq_ok_iff _ _ _).mp
            ((Growth.result_eq_ok_iff _ _).mpr ⟨outcome, rfl⟩)
          rcases grows.note_eq found with ⟨below, rfl, inLeaf⟩ | ⟨outside, said⟩
          · refine (note_at?_leaf last leaf resolves below node inLeaf).imp_right ?_
            rintro ⟨rfl, said⟩
            rw [List.append_nil]
            exact ⟨last, attachedBy_append_self outcome, said⟩
          · exact kept (fun _ => outside) said
      | some fault =>
          have leftover := leftover_of_insertAt_fault last last.segments _ fault outcome
          refine kept ?_ (leftover.note_eq found)
          intro accepted
          cases outcome.symm.trans accepted

/-- Only a request's descriptor makes its leaf optional. -/
theorem optional_leafNote_iff (descriptor : FieldDescriptor) :
    descriptor.leafNote.optional = true ↔
      descriptor.kind = .request ∧ descriptor.optional = some true := by
  unfold FieldDescriptor.leafNote
  cases kind : descriptor.kind with
  | request => cases descriptor.optional <;> simp
  | event | response => simp

/-- Whatever is inserted into the empty root, in whatever order and with whatever refusals:
the root is an object about which nothing is said, the tree is sound, and an optional node
was attached at its position by a request's descriptor that is optional. -/
theorem insertions_keep_the_tree_sound (descriptors : List FieldDescriptor) :
    (∃ properties, insertEach descriptors emptyObject = object properties .blank) ∧
      (insertEach descriptors emptyObject).Sound ∧
      ∀ position node, (insertEach descriptors emptyObject).at? position = some node →
        node.note.optional = true →
        ∃ descriptor, AttachedBy descriptors position descriptor ∧
          descriptor.kind = .request ∧ descriptor.optional = some true := by
  refine ⟨exists_root_of_insertEach descriptors, sound_insertEach descriptors, ?_⟩
  intro position node found optional
  rcases note_blank_or_attached descriptors position node found with blank | attached
  · rw [blank] at optional
    cases optional
  · obtain ⟨descriptor, attached, said⟩ := attached
    rw [said, optional_leafNote_iff] at optional
    exact ⟨descriptor, attached, optional⟩

/-- The field of a request that ends one step before the stray one, and may be left out. -/
def optionalField : FieldDescriptor := { itemsField with optional := some true }

theorem optionalField_attached_its_node_after_a_refusal :
    ((insertEach [strayField, optionalField] emptyObject).at?
        [.member "groups", .element, .member "items"] =
          some (scalar .string { optional := true })) ∧
      ∃ descriptor,
        AttachedBy [strayField, optionalField] [.member "groups", .element, .member "items"]
          descriptor ∧
        descriptor.kind = .request ∧ descriptor.optional = some true := by
  have leaf : optionalField.leaf = .ok (scalar .string { optional := true }) :=
    (leaf_eq_ok_iff _ _).mpr ⟨⟨0, .string⟩, rfl, rfl⟩
  have path : optionalField.segments = ["groups", "*", "items"] := rfl
  have left : insertEach [strayField] emptyObject = abandonedTree := rfl
  have found : (insertEach ([strayField] ++ [optionalField]) emptyObject).at?
      [.member "groups", .element, .member "items"] =
        some (scalar .string { optional := true }) := by
    rw [insertEach_append_singleton, left]
    simp [insert, insertAt, attach, path, leaf, wildcard, property?, setProperty, Growth.lift,
      abandonedTree, emptyObject, child?]
  exact ⟨found, (insertions_keep_the_tree_sound [strayField, optionalField]).2.2 _ _ found rfl⟩

end TypeTree
end ProtocolTypes
