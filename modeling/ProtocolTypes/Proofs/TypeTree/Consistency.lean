import ProtocolTypes.Proofs.TypeTree.Description
import ProtocolTypes.Proofs.TypeTree.Refusal

/-!
# Which lists of fields have a tree

`Consistent` is a criterion on the flat list alone, without a tree: every declared type
belongs to the vocabulary, every wildcard is well placed, and wherever a path passes a
named position the declaration of that position, or failing one the other paths, agree
on whether it is an object or an array of objects.  A list builds exactly when it is
consistent (`build_eq_ok_iff_consistent`), and so does every list in parents-first order
when its descriptors are inserted one by one.
-/

namespace ProtocolTypes

open FieldDescriptor

namespace FieldDescriptor

/-- The paths agree on what a position is that some of them go on from. -/
def ShapedAt (descriptors : List FieldDescriptor) (position : List Step) : Prop :=
  match lastAt? descriptors position with
  | some last =>
      (last.declaredType = "Object" ∧ ¬GoesOn descriptors position .element) ∨
        (last.declaredType = "Array<Object>" ∧
          ∀ step, GoesOn descriptors position step → step = .element)
  | none =>
      (∀ step, GoesOn descriptors position step → step = .element) ∨
        (∀ step, GoesOn descriptors position step → step ≠ .element)

/-- The criterion for a list of fields to have a tree. -/
structure Consistent (descriptors : List FieldDescriptor) : Prop where
  /-- Every declared type is a base name within any number of array wrappers. -/
  typed : ∀ descriptor ∈ descriptors,
    ∃ declared : DeclaredType, descriptor.declaredType = declared.text
  /-- No path ends in a wildcard, starts with one, or has two of them in a row. -/
  placed : ∀ descriptor ∈ descriptors,
    descriptor.position.getLast? ≠ some .element ∧
      descriptor.position.head? ≠ some .element ∧
      ¬[Step.element, Step.element] <:+: descriptor.position
  /-- The paths agree on every named position that one of them goes on from. -/
  shaped : ∀ front name step, GoesOn descriptors (front ++ [.member name]) step →
    ShapedAt descriptors (front ++ [.member name])

/-! ## Declared containers -/

theorem declared_eq_object_iff (declared : DeclaredType) :
    declared.text = "Object" ↔ declared = ⟨0, .object⟩ := by
  have spelled : DeclaredType.text ⟨0, .object⟩ = "Object" := by decide
  rw [← spelled, DeclaredType.text_injective.eq_iff]

theorem declared_eq_objects_iff (declared : DeclaredType) :
    declared.text = "Array<Object>" ↔ declared = ⟨1, .object⟩ := by
  have spelled : DeclaredType.text ⟨1, .object⟩ = "Array<Object>" := by decide
  rw [← spelled, DeclaredType.text_injective.eq_iff]

/-- A leaf admits a member exactly when it is declared as an object. -/
theorem leaf_admits_member_iff
    (descriptor : FieldDescriptor)
    (leaf : TypeTree)
    (resolves : descriptor.leaf = .ok leaf)
    (name : String) :
    leaf.Admits (.member name) ↔ descriptor.declaredType = "Object" := by
  obtain ⟨⟨depth, base⟩, spelled, rfl⟩ := (descriptor.leaf_eq_ok_iff leaf).mp resolves
  rw [spelled, declared_eq_object_iff]
  cases depth with
  | zero =>
      cases base <;>
        simp [DeclaredType.tree, DeclaredType.wrap, BaseType.tree, TypeTree.withNote,
          TypeTree.Admits, TypeTree.emptyObject]
  | succ depth =>
      simp [DeclaredType.tree, DeclaredType.wrap, TypeTree.withNote,
        TypeTree.admits_member_iff]

/-- A leaf admits a wildcard exactly when it is declared as an array of objects. -/
theorem leaf_admits_element_iff
    (descriptor : FieldDescriptor)
    (leaf : TypeTree)
    (resolves : descriptor.leaf = .ok leaf) :
    leaf.Admits .element ↔ descriptor.declaredType = "Array<Object>" := by
  obtain ⟨⟨depth, base⟩, spelled, rfl⟩ := (descriptor.leaf_eq_ok_iff leaf).mp resolves
  rw [spelled, declared_eq_objects_iff]
  match depth with
  | 0 =>
      cases base <;>
        simp [DeclaredType.tree, DeclaredType.wrap, BaseType.tree, TypeTree.withNote,
          TypeTree.admits_element_iff, TypeTree.emptyObject]
  | 1 =>
      cases base <;>
        simp [DeclaredType.tree, DeclaredType.wrap, BaseType.tree, TypeTree.withNote,
          TypeTree.admits_element_iff, TypeTree.emptyObject]
  | depth + 2 =>
      simp [DeclaredType.tree, DeclaredType.wrap, TypeTree.withNote,
        TypeTree.admits_element_iff]

theorem exists_leaf_iff (descriptor : FieldDescriptor) :
    (∃ leaf, descriptor.leaf = .ok leaf) ↔
      ∃ declared : DeclaredType, descriptor.declaredType = declared.text := by
  simp only [leaf_eq_ok_iff]
  constructor
  · rintro ⟨leaf, declared, spelled, _⟩
    exact ⟨declared, spelled⟩
  · rintro ⟨declared, spelled⟩
    exact ⟨_, declared, spelled, rfl⟩

end FieldDescriptor

/-! ## Built lists are consistent -/

namespace TypeTree
namespace Describes

variable {descriptors : List FieldDescriptor} {tree : TypeTree}

/-- Every node admits the steps by which the paths go on from it. -/
theorem admits
    (describes : Describes descriptors tree)
    {position : List Step}
    {step : Step}
    {node : TypeTree}
    (goesOn : GoesOn descriptors position step)
    (found : tree.at? position = some node) :
    node.Admits step := by
  obtain ⟨descriptor, isThere, isPrefix⟩ := goesOn
  obtain ⟨back, split⟩ := (append_singleton_isPrefix_iff _ _ _).mp isPrefix
  exact (describes.taken descriptor isThere).2.2 position step back node split found

theorem head?_ne_element
    (describes : Describes descriptors tree)
    (position : List Step)
    (fits : tree.Fits position) :
    position.head? ≠ some .element := by
  cases position with
  | nil => simp
  | cons step rest =>
      intro wild
      have admitted := fits.admits_head
      rw [← admits_outline, describes.root] at admitted
      simp only [List.head?_cons, Option.some.injEq] at wild
      rw [wild] at admitted
      exact admitted

theorem shapedAt_of_declared
    (describes : Describes descriptors tree)
    (position : List Step)
    (last : FieldDescriptor)
    (isLast : lastAt? descriptors position = some last)
    (step : Step)
    (goesOn : GoesOn descriptors position step) :
    ShapedAt descriptors position := by
  obtain ⟨node, found, resolves⟩ := describes.declared position last isLast
  have whenElement : GoesOn descriptors position .element →
      last.declaredType = "Array<Object>" := by
    intro goes
    rw [← leaf_admits_element_iff last _ resolves, admits_outline]
    exact describes.admits goes found
  have whenMember (name : String) : GoesOn descriptors position (.member name) →
      last.declaredType = "Object" := by
    intro goes
    rw [← leaf_admits_member_iff last _ resolves name, admits_outline]
    exact describes.admits goes found
  simp only [ShapedAt, isLast]
  cases step with
  | element =>
      refine .inr ⟨whenElement goesOn, ?_⟩
      intro other otherGoes
      cases other with
      | element => rfl
      | member name =>
          have clash := (whenElement goesOn).symm.trans (whenMember name otherGoes)
          exact absurd clash (by decide)
  | member name =>
      refine .inl ⟨whenMember name goesOn, ?_⟩
      intro otherGoes
      have clash := (whenElement otherGoes).symm.trans (whenMember name goesOn)
      exact absurd clash (by decide)

theorem shapedAt_of_undeclared
    (describes : Describes descriptors tree)
    (front : List Step)
    (name : String)
    (undeclared : lastAt? descriptors (front ++ [.member name]) = none) :
    ShapedAt descriptors (front ++ [.member name]) := by
  simp only [ShapedAt, undeclared]
  by_cases wild : GoesOn descriptors (front ++ [.member name]) .element
  · left
    intro step goesOn
    obtain ⟨node, found, isArray⟩ := describes.undeclared front name .element undeclared wild
    have admitted := describes.admits goesOn found
    rw [← admits_outline, isArray] at admitted
    cases step with
    | element => rfl
    | member other => exact absurd admitted id
  · right
    rintro step goesOn rfl
    exact wild goesOn

/-- Only a consistent list describes a tree. -/
theorem consistent (describes : Describes descriptors tree) : Consistent descriptors where
  typed := fun descriptor isThere =>
    (exists_leaf_iff descriptor).mp (describes.taken descriptor isThere).1
  placed := by
    intro descriptor isThere
    obtain ⟨_, spaced, fits⟩ := describes.taken descriptor isThere
    exact ⟨spaced.named_last, describes.head?_ne_element _ fits, spaced.apart⟩
  shaped := by
    intro front name step goesOn
    cases isLast : lastAt? descriptors (front ++ [.member name]) with
    | some last => exact describes.shapedAt_of_declared _ last isLast step goesOn
    | none => exact describes.shapedAt_of_undeclared front name isLast

end Describes
end TypeTree

/-! ## Consistent lists build -/

namespace FieldDescriptor

/-- Fewer paths agree on a position if more do. -/
theorem ShapedAt.mono
    {smaller larger : List FieldDescriptor}
    {position : List Step}
    (sameLast : lastAt? smaller position = lastAt? larger position)
    (goes : ∀ step, GoesOn smaller position step → GoesOn larger position step)
    (shaped : ShapedAt larger position) :
    ShapedAt smaller position := by
  unfold ShapedAt at shaped ⊢
  rw [sameLast]
  split at shaped
  · rcases shaped with ⟨isObject, notWild⟩ | ⟨isArray, allWild⟩
    · exact .inl ⟨isObject, fun wild => notWild (goes _ wild)⟩
    · exact .inr ⟨isArray, fun step goesOn => allWild step (goes step goesOn)⟩
  · rcases shaped with allWild | noneWild
    · exact .inl fun step goesOn => allWild step (goes step goesOn)
    · exact .inr fun step goesOn => noneWild step (goes step goesOn)

/-- Without its last descriptor a consistent list in parents-first order is consistent. -/
theorem Consistent.of_append_singleton
    {descriptors : List FieldDescriptor}
    {descriptor : FieldDescriptor}
    (consistent : Consistent (descriptors ++ [descriptor]))
    (parentsFirst : ∀ earlier ∈ descriptors, ¬earlier.Extends descriptor) :
    Consistent descriptors where
  typed := fun earlier isThere => consistent.typed earlier (by simp [isThere])
  placed := fun earlier isThere => consistent.placed earlier (by simp [isThere])
  shaped := by
    intro front name step goesOn
    have goes (step : Step) (earlier : GoesOn descriptors (front ++ [.member name]) step) :
        GoesOn (descriptors ++ [descriptor]) (front ++ [.member name]) step :=
      (goesOn_append_singleton_iff _ _ _ _).mpr (.inl earlier)
    have different : descriptor.position ≠ front ++ [.member name] := by
      intro same
      rw [← same, ← List.append_nil descriptor.position] at goesOn
      exact TypeTree.not_goesOn_below parentsFirst goesOn
    refine (consistent.shaped front name step (goes step goesOn)).mono ?_ goes
    rw [lastAt?_append_singleton, if_neg different]

/-- Consistency is a matter of which descriptors there are and which come last. -/
theorem Consistent.congr
    {left right : List FieldDescriptor}
    (consistent : Consistent left)
    (sameMembers : ∀ descriptor, descriptor ∈ right ↔ descriptor ∈ left)
    (sameLast : ∀ position, lastAt? right position = lastAt? left position) :
    Consistent right where
  typed := fun descriptor isThere =>
    consistent.typed descriptor ((sameMembers descriptor).mp isThere)
  placed := fun descriptor isThere =>
    consistent.placed descriptor ((sameMembers descriptor).mp isThere)
  shaped := by
    intro front name step goesOn
    have goes (step : Step) (goesOn : GoesOn right (front ++ [.member name]) step) :
        GoesOn left (front ++ [.member name]) step := by
      obtain ⟨descriptor, isThere, isPrefix⟩ := goesOn
      exact ⟨descriptor, (sameMembers descriptor).mp isThere, isPrefix⟩
    exact (consistent.shaped front name step (goes step goesOn)).mono (sameLast _) goes

end FieldDescriptor

namespace TypeTree

section Step

variable {descriptors : List FieldDescriptor} {descriptor : FieldDescriptor} {tree : TypeTree}

/-- A declared node admits the steps that its declared type allows. -/
theorem Describes.admits_declared
    (describes : Describes descriptors tree)
    {position : List Step}
    {last : FieldDescriptor}
    (isLast : lastAt? descriptors position = some last)
    {node : TypeTree}
    (found : tree.at? position = some node)
    (step : Step)
    (allowed : match step with
      | .member _ => last.declaredType = "Object"
      | .element => last.declaredType = "Array<Object>") :
    node.Admits step := by
  obtain ⟨leaf, isLeaf, resolves⟩ := describes.declared _ last isLast
  rw [found, Option.some.injEq] at isLeaf
  rw [isLeaf, ← admits_outline]
  cases step with
  | element => exact (leaf_admits_element_iff last _ resolves).mpr allowed
  | member name => exact (leaf_admits_member_iff last _ resolves name).mpr allowed

/-- A container that nobody declared admits the steps of the kind that made it. -/
theorem Describes.admits_undeclared
    (describes : Describes descriptors tree)
    {front : List Step}
    {name : String}
    (undeclared : lastAt? descriptors (front ++ [.member name]) = none)
    {node : TypeTree}
    (found : tree.at? (front ++ [.member name]) = some node)
    (step : Step)
    (sameKind : ∀ made, GoesOn descriptors (front ++ [.member name]) made →
      (made = .element ↔ step = .element)) :
    node.Admits step := by
  obtain ⟨made, goesOn, isContainer⟩ := describes.containers_agree found undeclared
  have kinds := sameKind made goesOn
  rw [← admits_outline, isContainer]
  cases made with
  | element =>
      rw [kinds.mp rfl]
      exact containerFor_admits .element
  | member other =>
      cases step with
      | element => cases kinds.mpr rfl
      | member name => trivial

/-- At a named position the tree admits the next step of a path that agrees with the
paths before it. -/
theorem Describes.admits_named
    (describes : Describes descriptors tree)
    (consistent : Consistent (descriptors ++ [descriptor]))
    (front : List Step)
    (name : String)
    (step : Step)
    (back : List Step)
    (split : front ++ [.member name] ++ step :: back = descriptor.position)
    (node : TypeTree)
    (found : tree.at? (front ++ [.member name]) = some node) :
    node.Admits step := by
  have isPrefix : front ++ [.member name] ++ [step] <+: descriptor.position :=
    (append_singleton_isPrefix_iff _ _ _).mpr ⟨back, split⟩
  have goesOn : GoesOn (descriptors ++ [descriptor]) (front ++ [.member name]) step :=
    (goesOn_append_singleton_iff _ _ _ _).mpr (.inr isPrefix)
  have different : descriptor.position ≠ front ++ [.member name] := by
    intro same
    rw [← same] at isPrefix
    exact not_passes_below descriptor.position [] step (by simpa using isPrefix)
  have shaped := consistent.shaped front name step goesOn
  simp only [ShapedAt, lastAt?_append_singleton, if_neg different] at shaped
  cases isLast : lastAt? descriptors (front ++ [.member name]) with
  | some last =>
      rw [isLast] at shaped
      apply describes.admits_declared isLast found
      cases step with
      | element => exact (shaped.resolve_left fun isObject => isObject.2 goesOn).1
      | member other =>
          refine (shaped.resolve_right ?_).1
          rintro ⟨_, allWild⟩
          cases allWild _ goesOn
  | none =>
      rw [isLast] at shaped
      apply describes.admits_undeclared isLast found
      intro made madeGoesOn
      have madeGoesOnToo := (goesOn_append_singleton_iff _ descriptor _ _).mpr (.inl madeGoesOn)
      rcases shaped with allWild | noneWild
      · simp [allWild made madeGoesOnToo, allWild step goesOn]
      · simp [noneWild made madeGoesOnToo, noneWild step goesOn]

/-- A path that agrees with the paths before it fits into their tree. -/
theorem Describes.fits
    (describes : Describes descriptors tree)
    (consistent : Consistent (descriptors ++ [descriptor])) :
    tree.Fits descriptor.position := by
  obtain ⟨_, namedFirst, apart⟩ := consistent.placed descriptor (by simp)
  intro front step back node split found
  induction front using List.reverseRecOn generalizing step back node with
  | nil =>
      simp only [at?_nil, Option.some.injEq] at found
      rw [← found, ← admits_outline, describes.root]
      cases step with
      | member name => trivial
      | element =>
          rw [← split] at namedFirst
          exact absurd rfl namedFirst
  | append_singleton front last inductionHypothesis =>
      cases last with
      | member name =>
          exact describes.admits_named consistent front name step back split node found
      | element =>
          -- The array around the node admitted the wildcard, so the node is an object.
          rw [at?_append_singleton, Option.bind_eq_some_iff] at found
          obtain ⟨array, isArray, isElement⟩ := found
          have admitted := inductionHypothesis .element (step :: back) array
            (by simpa using split) isArray
          obtain ⟨properties, note, arrayNote, rfl⟩ := (admits_element_iff array).mp admitted
          simp only [child?, Option.some.injEq] at isElement
          rw [← isElement]
          cases step with
          | member name => trivial
          | element => exact absurd ⟨front, back, by simpa using split⟩ apart

end Step

/-- A list in parents-first order can be inserted exactly when it is consistent. -/
theorem insertAll_eq_ok_iff_consistent
    (descriptors : List FieldDescriptor)
    (parentsFirst : ParentsFirst descriptors) :
    (∃ tree, (insertAll descriptors emptyObject).result = .ok tree) ↔
      Consistent descriptors := by
  constructor
  · rintro ⟨tree, completes⟩
    exact (describes_of_insertAll descriptors parentsFirst tree completes).consistent
  · intro consistent
    induction descriptors using List.reverseRecOn with
    | nil => exact ⟨emptyObject, rfl⟩
    | append_singleton descriptors descriptor inductionHypothesis =>
        rw [parentsFirst_append_singleton_iff] at parentsFirst
        obtain ⟨earlierFirst, notExtended⟩ := parentsFirst
        obtain ⟨tree, run⟩ :=
          inductionHypothesis earlierFirst (consistent.of_append_singleton notExtended)
        have describes := describes_of_insertAll descriptors earlierFirst tree run
        obtain ⟨leaf, resolves⟩ :=
          (exists_leaf_iff descriptor).mpr (consistent.typed descriptor (by simp))
        obtain ⟨namedLast, _, apart⟩ := consistent.placed descriptor (by simp)
        obtain ⟨grown, grows⟩ :=
          exists_grows_of_fits leaf descriptor.position descriptor.position_ne_nil tree
            ⟨namedLast, apart⟩ (describes.fits consistent)
        exact ⟨grown, (insertAll_append_singleton_eq_ok_iff _ _ _ _).mpr
          ⟨tree, leaf, run, resolves, grows⟩⟩

theorem consistent_byDepth_iff (descriptors : List FieldDescriptor) :
    Consistent (byDepth descriptors) ↔ Consistent descriptors := by
  have sameMembers (descriptor : FieldDescriptor) :
      descriptor ∈ byDepth descriptors ↔ descriptor ∈ descriptors :=
    (byDepth_perm descriptors).mem_iff
  constructor
  · intro consistent
    exact consistent.congr (fun descriptor => (sameMembers descriptor).symm)
      fun position => (lastAt?_byDepth descriptors position).symm
  · intro consistent
    exact consistent.congr sameMembers (lastAt?_byDepth descriptors)

/-- A list of fields has a tree exactly when it is consistent, and is refused otherwise,
with a fault that names one of its paths. -/
theorem build_completes_iff_consistent (descriptors : List FieldDescriptor) :
    ((∃ tree, (build descriptors).result = .ok tree) ↔ Consistent descriptors) ∧
      ((∃ fault, (build descriptors).result = .error fault ∧
          ∃ descriptor ∈ descriptors, fault.path = some descriptor.path) ↔
        ¬Consistent descriptors) := by
  have completes :
      (∃ tree, (build descriptors).result = .ok tree) ↔ Consistent descriptors := by
    rw [← consistent_byDepth_iff]
    exact insertAll_eq_ok_iff_consistent _ (byDepth_parentsFirst descriptors)
  refine ⟨completes, ?_⟩
  rw [← completes]
  cases refused : (build descriptors).fault with
  | none => simp [Growth.result, refused]
  | some fault =>
      obtain ⟨descriptor, isThere, named⟩ := exists_path_of_insertAll_fault _ _ fault refused
      have isGiven := (byDepth_perm descriptors).mem_iff.mp isThere
      simp only [Growth.result, refused, reduceCtorEq, exists_false, not_false_eq_true,
        iff_true]
      exact ⟨fault, rfl, descriptor, isGiven, named⟩

end TypeTree
end ProtocolTypes
