import ProtocolTypes.Proofs.TypeTree.Coverage

/-!
# The order of properties

Every object of a built tree lists its properties first come, first served: in the order
in which the first path that passes each of them appears among the descriptors, sorted by
depth (`build_orders_properties_by_first_passage`).
-/

namespace ProtocolTypes
namespace FieldDescriptor

/-! ## First passages -/

/-- The list holds the descriptors sorted by depth, those of one depth in their order. -/
structure SortedByDepth (descriptors sorted : List FieldDescriptor) : Prop where
  perm : sorted.Perm descriptors
  ascending : sorted.Pairwise fun earlier later => earlier.depth ≤ later.depth
  stable : ∀ depth,
    (sorted.filter fun descriptor => descriptor.depth = depth) =
      descriptors.filter fun descriptor => descriptor.depth = depth

/-- The place in the list of the first path that ends at the position or goes on from it. -/
def firstPassage (descriptors : List FieldDescriptor) (position : List Step) : Nat :=
  descriptors.findIdx fun descriptor => position <+: descriptor.position

/-- The names are those that follow the position, in the order of their first passages. -/
structure FirstComeFirst
    (descriptors : List FieldDescriptor)
    (position : List Step)
    (names : List String) : Prop where
  named : ∀ name, name ∈ names ↔ GoesOn descriptors position (.member name)
  ordered : names.Pairwise fun earlier later =>
    firstPassage descriptors (position ++ [.member earlier]) <
      firstPassage descriptors (position ++ [.member later])

section Append

variable {descriptors : List FieldDescriptor} {position : List Step} {name : String}

/-- A position is passed exactly when its first passage lies within the list. -/
theorem firstPassage_lt_length_iff :
    firstPassage descriptors (position ++ [.member name]) < descriptors.length ↔
      GoesOn descriptors position (.member name) := by
  simp [firstPassage, GoesOn, List.findIdx_lt_length]

/-- Later descriptors do not change where a position was first passed. -/
theorem firstPassage_append_of_goesOn
    (goesOn : GoesOn descriptors position (.member name))
    (later : List FieldDescriptor) :
    firstPassage (descriptors ++ later) (position ++ [.member name]) =
      firstPassage descriptors (position ++ [.member name]) := by
  have within := firstPassage_lt_length_iff.mpr goesOn
  unfold firstPassage at within ⊢
  rw [List.findIdx_append, if_pos within]

/-- A position that was not passed before is not passed before the later descriptors. -/
theorem length_le_firstPassage_append
    (notYet : ¬GoesOn descriptors position (.member name))
    (later : List FieldDescriptor) :
    descriptors.length ≤ firstPassage (descriptors ++ later) (position ++ [.member name]) := by
  have beyond := mt firstPassage_lt_length_iff.mp notYet
  unfold firstPassage at beyond ⊢
  rw [List.findIdx_append, if_neg beyond]
  exact Nat.le_add_left _ _

end Append

/-- One more name keeps the order, whether or not it was there before. -/
theorem ordered_withStep
    (descriptors : List FieldDescriptor)
    (descriptor : FieldDescriptor)
    (position : List Step)
    (names : List String)
    (firstCome : FirstComeFirst descriptors position names)
    (step : Step) :
    (TypeTree.withStep names step).Pairwise fun earlier later =>
      firstPassage (descriptors ++ [descriptor]) (position ++ [.member earlier]) <
        firstPassage (descriptors ++ [descriptor]) (position ++ [.member later]) := by
  have before (name : String) (isThere : name ∈ names) :
      firstPassage (descriptors ++ [descriptor]) (position ++ [.member name]) =
        firstPassage descriptors (position ++ [.member name]) :=
    firstPassage_append_of_goesOn ((firstCome.named name).mp isThere) [descriptor]
  have kept : names.Pairwise fun earlier later =>
      firstPassage (descriptors ++ [descriptor]) (position ++ [.member earlier]) <
        firstPassage (descriptors ++ [descriptor]) (position ++ [.member later]) := by
    refine firstCome.ordered.imp_of_mem ?_
    intro earlier later earlierThere laterThere ordered
    rwa [before earlier earlierThere, before later laterThere]
  cases step with
  | element => exact kept
  | member name =>
      simp only [TypeTree.withStep]
      split
      · exact kept
      · next isNew =>
          refine List.pairwise_append.mpr ⟨kept, List.pairwise_singleton _ _, ?_⟩
          intro earlier isThere later isLast
          rw [List.mem_singleton.mp isLast, before earlier isThere]
          have passed := (firstCome.named earlier).mp isThere
          have notYet := mt (firstCome.named name).mpr isNew
          exact (firstPassage_lt_length_iff.mpr passed).trans_le
            (length_le_firstPassage_append notYet [descriptor])

/-- Without their repetitions the names that follow a position come first come, first
served. -/
theorem firstComeFirst_eraseDups
    (descriptors : List FieldDescriptor)
    (position : List Step) :
    FirstComeFirst descriptors position (namesAfter descriptors position).eraseDups := by
  have named (descriptors : List FieldDescriptor) (name : String) :
      name ∈ (namesAfter descriptors position).eraseDups ↔
        GoesOn descriptors position (.member name) := by
    rw [List.mem_eraseDups, mem_namesAfter_iff]
  refine ⟨named descriptors, ?_⟩
  induction descriptors using List.reverseRecOn with
  | nil => simp [namesAfter]
  | append_singleton descriptors descriptor inductionHypothesis =>
      rw [namesAfter_append_singleton]
      cases nameAfter? position descriptor.position with
      | none =>
          have same := ordered_withStep descriptors descriptor position _
            ⟨named descriptors, inductionHypothesis⟩ .element
          simpa [TypeTree.withStep] using same
      | some name =>
          have joined := ordered_withStep descriptors descriptor position _
            ⟨named descriptors, inductionHypothesis⟩ (.member name)
          rwa [TypeTree.withStep_eraseDups] at joined

end FieldDescriptor

namespace TypeTree

open FieldDescriptor

theorem sortedByDepth_byDepth (descriptors : List FieldDescriptor) :
    SortedByDepth descriptors (byDepth descriptors) where
  perm := byDepth_perm descriptors
  ascending := byDepth_pairwise descriptors
  stable := fun depth => filter_byDepth _ depth (by simp) descriptors

/-- In a built tree every node names what follows its position in the paths, first come,
first served: a repeated path counts where it first appears, and a container that nobody
declared where the first path through it does. -/
theorem build_orders_properties_by_first_passage
    (descriptors : List FieldDescriptor)
    (tree : TypeTree)
    (built : (build descriptors).result = .ok tree) :
    SortedByDepth descriptors (byDepth descriptors) ∧
      ∀ position node, tree.at? position = some node →
        FirstComeFirst (byDepth descriptors) position node.names := by
  refine ⟨sortedByDepth_byDepth descriptors, ?_⟩
  intro position node found
  rw [(describes_of_build descriptors tree built).ordered position node found]
  exact firstComeFirst_eraseDups (byDepth descriptors) position

theorem sampleTree_names_its_fields_in_order :
    (build sampleFields).result = .ok sampleTree ∧
      FirstComeFirst (byDepth sampleFields) [] ["id", "items"] ∧
      FirstComeFirst (byDepth sampleFields) [.member "items", .element] ["name", "count"] :=
  have inOrder :=
    (build_orders_properties_by_first_passage sampleFields sampleTree build_sampleFields).2
  ⟨build_sampleFields, inOrder [] _ rfl, inOrder [.member "items", .element] _ rfl⟩

end TypeTree
end ProtocolTypes
