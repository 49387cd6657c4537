import ProtocolTypes.Log
import ProtocolTypes.Proofs.TypeTree.InsertionTrace

/-!
# The trace of a build

What a build notes on its way is told by its fields alone.  It makes one container for every
place that a path goes on from and at which none ends, and notes a repeated path once for
each of its earlier declarations (`build_trace_is_exact`).  Nothing else takes the place of
a property, since in the order by depth nothing stands below a field when it is declared.
-/

namespace ProtocolTypes
namespace TypeTree

open FieldDescriptor

/-! ## The steps of a run -/

/-- What is noted when the container at the place is made: an array of objects where the
paths go on by a wildcard, and an object otherwise. -/
def synthesis (descriptors : List FieldDescriptor) (place : Place) : GrowthStep :=
  .synthesized
    (if GoesOn descriptors place.position .element then array emptyObject .blank else emptyObject)
    place.name

/-- The steps are those that the descriptors account for, in some order. -/
structure AccountsFor
    (descriptors : List FieldDescriptor)
    (made : List Place)
    (repeated : List String)
    (steps : List GrowthStep) : Prop where
  /-- No container is made twice. -/
  distinct : made.Nodup
  /-- Containers are made where some path passes and none ends. -/
  made_iff : ∀ place, place ∈ made ↔
    (∃ descriptor ∈ descriptors, place.position <+: descriptor.position) ∧
      ∀ descriptor ∈ descriptors, descriptor.position ≠ place.position
  /-- A path is repeated once less than it is declared. -/
  count_repeated : ∀ path,
    repeated.count path = (descriptors.map FieldDescriptor.path).count path - 1
  /-- Each of these has one step, and there are no others. -/
  exactly : steps.Perm (made.map (synthesis descriptors) ++ repeated.map .redeclared)

section Step

variable {descriptors : List FieldDescriptor} {descriptor : FieldDescriptor}
  {tree leaf grown : TypeTree} {place : Place}

/-- A member is missing exactly where no path passes. -/
theorem Describes.isNone_at?_iff (describes : Describes descriptors tree) :
    (tree.at? place.position).isNone = true ↔
      ∀ descriptor ∈ descriptors, ¬place.position <+: descriptor.position := by
  rw [← Option.not_isSome, Bool.not_eq_true', Bool.eq_false_iff, ne_eq, Place.position,
    describes.isSome_at?_iff]
  simp

/-- Something stands at the end of a path exactly when the path was declared before. -/
theorem Describes.isSome_at?_position_iff
    (describes : Describes descriptors tree)
    (parentsFirst : ∀ earlier ∈ descriptors, ¬earlier.Extends descriptor)
    (grows : Grows leaf descriptor.position tree grown) :
    (tree.at? descriptor.position).isSome ↔
      descriptor.path ∈ descriptors.map FieldDescriptor.path := by
  obtain ⟨place, ends⟩ := grows.spaced.exists_place descriptor.position_ne_nil
  rw [← ends, Place.position, describes.isSome_at?_iff, ← Place.position, ends, List.mem_map]
  constructor
  · rintro ⟨earlier, isThere, isPrefix⟩
    refine ⟨earlier, isThere, (position_eq_iff earlier descriptor).mp ?_⟩
    by_contra different
    exact parentsFirst earlier isThere ⟨isPrefix, Ne.symm different⟩
  · rintro ⟨earlier, isThere, samePath⟩
    refine ⟨earlier, isThere, ?_⟩
    rw [(position_eq_iff earlier descriptor).mpr samePath]

theorem mem_missing_iff (path : List Step) :
    place ∈ missing tree path ↔
      (place.position <+: path ∧ place.position ≠ path) ∧
        (tree.at? place.position).isNone = true := by
  rw [missing, List.mem_filter, Place.mem_along_iff]

/-- Where earlier paths pass and none of them ends, no later path ends. -/
theorem position_ne_of_passed
    (parentsFirst : ∀ earlier ∈ descriptors, ¬earlier.Extends descriptor)
    {position : List Step}
    (passed : ∃ earlier ∈ descriptors, position <+: earlier.position)
    (undeclared : ∀ earlier ∈ descriptors, earlier.position ≠ position) :
    descriptor.position ≠ position := by
  rintro rfl
  obtain ⟨earlier, isThere, isPrefix⟩ := passed
  exact parentsFirst earlier isThere ⟨isPrefix, Ne.symm (undeclared earlier isThere)⟩

/-- A container that was made before is the same for one more path. -/
theorem synthesis_append_of_passed
    (grownDescribes : Describes (descriptors ++ [descriptor]) grown)
    (parentsFirst : ∀ earlier ∈ descriptors, ¬earlier.Extends descriptor)
    (passed : ∃ earlier ∈ descriptors, place.position <+: earlier.position)
    (undeclared : ∀ earlier ∈ descriptors, earlier.position ≠ place.position) :
    synthesis (descriptors ++ [descriptor]) place = synthesis descriptors place := by
  have stillUndeclared : lastAt? (descriptors ++ [descriptor]) place.position = none := by
    rw [lastAt?_append_singleton, if_neg (position_ne_of_passed parentsFirst passed undeclared),
      lastAt?_eq_none_iff]
    exact undeclared
  obtain ⟨earlier, isThere, isPrefix⟩ := passed
  obtain ⟨step, back, split⟩ :=
    exists_step_of_isPrefix isPrefix (Ne.symm (undeclared earlier isThere))
  have goesOn : GoesOn descriptors place.position step :=
    ⟨earlier, isThere, (append_singleton_isPrefix_iff _ _ _).mpr ⟨back, split⟩⟩
  have goesOnAfter : GoesOn (descriptors ++ [descriptor]) place.position step :=
    (goesOn_append_singleton_iff _ _ _ _).mpr (.inl goesOn)
  obtain ⟨node, found⟩ := grownDescribes.exists_node (by simp [isThere]) isPrefix
  have sameQuestion : GoesOn (descriptors ++ [descriptor]) place.position .element ↔
      GoesOn descriptors place.position .element := by
    rcases grownDescribes.outline_of_undeclared place.above place.name stillUndeclared node found
      with ⟨_, onlyElements⟩ | ⟨_, noElements⟩
    · obtain rfl := onlyElements step goesOnAfter
      exact iff_of_true goesOnAfter goesOn
    · refine iff_of_false (fun wild => noElements _ wild rfl) fun wild => ?_
      exact noElements _ ((goesOn_append_singleton_iff _ _ _ _).mpr (.inl wild)) rfl
  simp only [synthesis, sameQuestion]

/-- A container that is made now is made for the new path alone. -/
theorem synthesis_append_of_not_passed
    (notPassed : ∀ earlier ∈ descriptors, ¬place.position <+: earlier.position) :
    synthesis (descriptors ++ [descriptor]) place = synthesisOn descriptor.position place := by
  have newQuestion : GoesOn (descriptors ++ [descriptor]) place.position .element ↔
      place.position ++ [.element] <+: descriptor.position := by
    rw [goesOn_append_singleton_iff, or_iff_right]
    rintro ⟨earlier, isThere, isPrefix⟩
    exact notPassed earlier isThere ((List.prefix_append _ _).trans isPrefix)
  simp only [synthesis, synthesisOn, containerOn, containerFor, newQuestion]

/-- The paths that a descriptor repeats: its own, when it was declared before. -/
def repeatedBy (descriptors : List FieldDescriptor) (descriptor : FieldDescriptor) :
    List String :=
  if descriptor.path ∈ descriptors.map FieldDescriptor.path then [descriptor.path] else []

theorem count_append_repeatedBy
    (repeated : List String)
    (counted : ∀ path,
      repeated.count path = (descriptors.map FieldDescriptor.path).count path - 1)
    (path : String) :
    (repeated ++ repeatedBy descriptors descriptor).count path =
      ((descriptors ++ [descriptor]).map FieldDescriptor.path).count path - 1 := by
  rw [List.count_append, counted, List.map_append, List.count_append, repeatedBy]
  by_cases same : descriptor.path = path
  · subst same
    by_cases declared : descriptor.path ∈ descriptors.map FieldDescriptor.path
    · have positive := List.count_pos_iff.mpr declared
      simp only [declared, if_true, List.map_cons, List.map_nil, List.count_singleton_self]
      omega
    · have none := List.count_eq_zero.mpr declared
      simp only [declared, if_false, List.map_cons, List.map_nil, List.count_singleton_self,
        List.count_nil]
      omega
  · split <;> simp [same]

namespace AccountsFor

variable {made : List Place} {repeated : List String} {steps : List GrowthStep}

theorem made_append_iff
    (accounts : AccountsFor descriptors made repeated steps)
    (describes : Describes descriptors tree)
    (parentsFirst : ∀ earlier ∈ descriptors, ¬earlier.Extends descriptor)
    (place : Place) :
    place ∈ made ++ missing tree descriptor.position ↔
      (∃ other ∈ descriptors ++ [descriptor], place.position <+: other.position) ∧
        ∀ other ∈ descriptors ++ [descriptor], other.position ≠ place.position := by
  have passedAfter : (∃ other ∈ descriptors ++ [descriptor],
        place.position <+: other.position) ↔
      (∃ earlier ∈ descriptors, place.position <+: earlier.position) ∨
        place.position <+: descriptor.position := by
    simp [or_and_right, exists_or]
  have undeclaredAfter : (∀ other ∈ descriptors ++ [descriptor],
        other.position ≠ place.position) ↔
      (∀ earlier ∈ descriptors, earlier.position ≠ place.position) ∧
        descriptor.position ≠ place.position := by
    simp [or_imp, forall_and]
  rw [List.mem_append, accounts.made_iff, mem_missing_iff, describes.isNone_at?_iff, passedAfter,
    undeclaredAfter]
  by_cases passed : ∃ earlier ∈ descriptors, place.position <+: earlier.position
  · constructor
    · rintro (⟨_, undeclared⟩ | ⟨_, notPassed⟩)
      · exact ⟨.inl passed, undeclared, position_ne_of_passed parentsFirst passed undeclared⟩
      · obtain ⟨earlier, isThere, isPrefix⟩ := passed
        exact absurd isPrefix (notPassed earlier isThere)
    · rintro ⟨_, undeclared, _⟩
      exact .inl ⟨passed, undeclared⟩
  · have notPassed : ∀ earlier ∈ descriptors, ¬place.position <+: earlier.position :=
      fun earlier isThere isPrefix => passed ⟨earlier, isThere, isPrefix⟩
    constructor
    · rintro (⟨isPassed, _⟩ | ⟨⟨isPrefix, proper⟩, _⟩)
      · exact absurd isPassed passed
      · refine ⟨.inr isPrefix, fun earlier isThere same => ?_, Ne.symm proper⟩
        exact notPassed earlier isThere (same ▸ List.prefix_rfl)
    · rintro ⟨isPassed | isPrefix, _, different⟩
      · exact absurd isPassed passed
      · exact .inr ⟨⟨isPrefix, Ne.symm different⟩, notPassed⟩

/-- One insertion keeps the account, when nothing deeper on its path came before. -/
theorem grows
    (accounts : AccountsFor descriptors made repeated steps)
    (describes : Describes descriptors tree)
    (parentsFirst : ∀ earlier ∈ descriptors, ¬earlier.Extends descriptor)
    (resolves : descriptor.leaf = .ok leaf)
    (grows : Grows leaf descriptor.position tree grown) :
    AccountsFor (descriptors ++ [descriptor])
      (made ++ missing tree descriptor.position)
      (repeated ++ repeatedBy descriptors descriptor)
      (steps ++ noted descriptor tree descriptor.position) where
  distinct := by
    refine List.nodup_append.mpr ⟨accounts.distinct, (Place.nodup_along _).filter _, ?_⟩
    rintro place isMade _ isMissing rfl
    obtain ⟨earlier, isThere, isPrefix⟩ := ((accounts.made_iff place).mp isMade).1
    exact describes.isNone_at?_iff.mp ((mem_missing_iff _).mp isMissing).2 earlier isThere isPrefix
  made_iff := accounts.made_append_iff describes parentsFirst
  count_repeated := count_append_repeatedBy repeated accounts.count_repeated
  exactly := by
    have sameMade : made.map (synthesis (descriptors ++ [descriptor])) =
        made.map (synthesis descriptors) := by
      apply List.map_congr_left
      intro place isMade
      obtain ⟨passed, undeclared⟩ := (accounts.made_iff place).mp isMade
      exact synthesis_append_of_passed (describes.grows parentsFirst resolves grows)
        parentsFirst passed undeclared
    have sameMissing : (missing tree descriptor.position).map
          (synthesis (descriptors ++ [descriptor])) =
        (missing tree descriptor.position).map (synthesisOn descriptor.position) := by
      apply List.map_congr_left
      intro place isMissing
      exact synthesis_append_of_not_passed
        (describes.isNone_at?_iff.mp ((mem_missing_iff _).mp isMissing).2)
    have sameRepeated :
        (if (tree.at? descriptor.position).isSome then
          [GrowthStep.redeclared descriptor.path] else []) =
        (repeatedBy descriptors descriptor).map .redeclared := by
      simp only [describes.isSome_at?_position_iff parentsFirst grows, repeatedBy]
      split <;> rfl
    rw [noted, List.map_append, List.map_append, sameMade, sameMissing, sameRepeated]
    refine (accounts.exactly.append_right _).trans ?_
    rw [List.append_assoc, List.append_assoc]
    exact (List.perm_append_comm_assoc _ _ _).append_left _

end AccountsFor

/-! ## What is replaced -/

end Step

/-- What a completed run in parents-first order notes is accounted for by its list. -/
theorem accountsFor_of_insertAll
    (descriptors : List FieldDescriptor)
    (parentsFirst : ParentsFirst descriptors)
    (tree : TypeTree)
    (completes : (insertAll descriptors emptyObject).result = .ok tree) :
    ∃ made repeated,
      AccountsFor descriptors made repeated (insertAll descriptors emptyObject).steps := by
  induction descriptors using List.reverseRecOn generalizing tree with
  | nil => exact ⟨[], [], ⟨List.nodup_nil, by simp, by simp, .refl _⟩⟩
  | append_singleton descriptors descriptor inductionHypothesis =>
      rw [parentsFirst_append_singleton_iff] at parentsFirst
      obtain ⟨middle, leaf, run, resolves, grows⟩ :=
        (insertAll_append_singleton_eq_ok_iff _ _ _ _).mp completes
      obtain ⟨made, repeated, accounts⟩ := inductionHypothesis parentsFirst.1 middle run
      have describes := describes_of_insertAll descriptors parentsFirst.1 middle run
      have inserted := (insert_eq_ok_iff descriptor middle tree).mpr ⟨leaf, resolves, grows⟩
      rw [steps_insertAll_append_singleton _ _ _ _ run, steps_insert _ _ _ inserted]
      exact ⟨_, _, accounts.grows describes parentsFirst.2 resolves grows⟩

/-- The account is the same whatever the order of the descriptors. -/
theorem AccountsFor.of_byDepth
    {descriptors : List FieldDescriptor}
    {made : List Place}
    {repeated : List String}
    {steps : List GrowthStep}
    (accounts : AccountsFor (byDepth descriptors) made repeated steps) :
    AccountsFor descriptors made repeated steps where
  distinct := accounts.distinct
  made_iff := by simpa only [(byDepth_perm descriptors).mem_iff] using accounts.made_iff
  count_repeated := by
    intro path
    rw [accounts.count_repeated, ((byDepth_perm descriptors).map _).count_eq]
  exactly := by
    have sameSynthesis : synthesis (byDepth descriptors) = synthesis descriptors := by
      funext place
      simp only [synthesis, goesOn_byDepth_iff]
    rw [← sameSynthesis]
    exact accounts.exactly

theorem accountsFor_build
    {descriptors : List FieldDescriptor}
    {tree : TypeTree}
    (built : (build descriptors).result = .ok tree) :
    ∃ made repeated, AccountsFor descriptors made repeated (build descriptors).steps := by
  obtain ⟨made, repeated, accounts⟩ :=
    accountsFor_of_insertAll _ (byDepth_parentsFirst descriptors) tree built
  exact ⟨made, repeated, accounts.of_byDepth⟩

end TypeTree
end ProtocolTypes
