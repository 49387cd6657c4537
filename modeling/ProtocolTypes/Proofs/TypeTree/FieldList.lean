import ProtocolTypes.Proofs.TypeTree.Position
import ProtocolTypes.TypeTree.Insert
import Mathlib.Data.List.Basic
import Mathlib.Data.List.Perm.Basic

/-!
# Lists of fields

What a list of descriptors says about a position: which descriptor is the last to have it,
by which steps the paths go on from it, and which names follow it.  A list is in
parents-first order when no descriptor comes after one whose path goes on from its own
path; sorting by depth brings every list into such an order, and keeps the relative order
of the descriptors of one position.
-/

namespace ProtocolTypes
namespace FieldDescriptor

/-- The path goes on from the other path. -/
def Extends (longer shorter : FieldDescriptor) : Prop :=
  shorter.position <+: longer.position ∧ shorter.position ≠ longer.position

/-- No descriptor comes after one whose path goes on from its own path. -/
def ParentsFirst (descriptors : List FieldDescriptor) : Prop :=
  descriptors.Pairwise fun earlier later => ¬earlier.Extends later

/-- The last descriptor that has the position. -/
def lastAt? (descriptors : List FieldDescriptor) (position : List Step) :
    Option FieldDescriptor :=
  (descriptors.filter fun descriptor => descriptor.position = position).getLast?

/-- Some path passes the position and goes on by the step. -/
def GoesOn (descriptors : List FieldDescriptor) (position : List Step) (step : Step) : Prop :=
  ∃ descriptor ∈ descriptors, position ++ [step] <+: descriptor.position

instance (descriptors : List FieldDescriptor) (position : List Step) (step : Step) :
    Decidable (GoesOn descriptors position step) :=
  inferInstanceAs (Decidable (∃ descriptor ∈ descriptors, _))

/-- The name by which a path goes on from a position. -/
def nameAfter? : List Step → List Step → Option String
  | [], step :: _ => step.name?
  | step :: position, other :: path => if step = other then nameAfter? position path else none
  | _, [] => none

/-- The names that follow a position in the paths, in the order of the list. -/
def namesAfter (descriptors : List FieldDescriptor) (position : List Step) : List String :=
  descriptors.filterMap fun descriptor => nameAfter? position descriptor.position

/-! ## Prefixes of paths -/

/-- A proper prefix is followed by a step. -/
theorem exists_step_of_isPrefix
    {front path : List Step}
    (isPrefix : front <+: path)
    (different : front ≠ path) :
    ∃ step back, front ++ step :: back = path := by
  obtain ⟨back, rfl⟩ := isPrefix
  cases back with
  | nil => simp at different
  | cons step back => exact ⟨step, back, rfl⟩

/-- A path goes on from a position by a step exactly if the step is next in it. -/
theorem append_singleton_isPrefix_iff
    (front path : List Step)
    (step : Step) :
    front ++ [step] <+: path ↔ ∃ back, front ++ step :: back = path := by
  constructor
  · rintro ⟨back, rfl⟩
    exact ⟨back, by simp⟩
  · rintro ⟨back, rfl⟩
    exact ⟨back, by simp⟩

theorem step_eq_of_isPrefix
    {front back path : List Step}
    {step next : Step}
    (isPrefix : front ++ [step] <+: path)
    (split : front ++ next :: back = path) :
    step = next := by
  obtain ⟨rest, rfl⟩ := (append_singleton_isPrefix_iff front path step).mp isPrefix
  simp only [List.append_cancel_left_eq, List.cons.injEq] at split
  exact split.1.symm

/-- No path passes a position at or below its end. -/
theorem not_passes_below
    (path below : List Step)
    (step : Step) :
    ¬(path ++ below) ++ [step] <+: path := by
  intro isPrefix
  have lengths := isPrefix.length_le
  simp only [List.length_append, List.length_singleton] at lengths
  omega

/-- A position lies at or below the end of a path, above it, or apart from it. -/
theorem below_or_above_or_apart (position path : List Step) :
    (∃ below, path ++ below = position) ∨
      (∃ step back, position ++ step :: back = path) ∨
      (¬position <+: path ∧ ¬path <+: position) := by
  by_cases isBelow : path <+: position
  · exact .inl isBelow
  · by_cases isAbove : position <+: path
    · refine .inr (.inl (exists_step_of_isPrefix isAbove ?_))
      rintro rfl
      exact isBelow isAbove
    · exact .inr (.inr ⟨isAbove, isBelow⟩)

/-- The name behind a position is that of the next step. -/
theorem nameAfter?_eq_some_iff
    (position path : List Step)
    (name : String) :
    nameAfter? position path = some name ↔ position ++ [.member name] <+: path := by
  induction position generalizing path with
  | nil =>
      cases path with
      | nil => simp [nameAfter?]
      | cons step path => cases step <;> simp [nameAfter?, Step.name?, eq_comm]
  | cons step position inductionHypothesis =>
      cases path with
      | nil => simp [nameAfter?]
      | cons other path =>
          by_cases same : step = other <;> simp [nameAfter?, same, inductionHypothesis]

/-- The names behind a position are those by which the fields go on from it. -/
theorem mem_namesAfter_iff
    (descriptors : List FieldDescriptor)
    (position : List Step)
    (name : String) :
    name ∈ namesAfter descriptors position ↔ GoesOn descriptors position (.member name) := by
  simp only [namesAfter, List.mem_filterMap, nameAfter?_eq_some_iff, GoesOn]

theorem nameAfter?_append_cons
    (position back : List Step)
    (step : Step) :
    nameAfter? position (position ++ step :: back) = step.name? := by
  induction position with
  | nil => rfl
  | cons first position inductionHypothesis => simp [nameAfter?, inductionHypothesis]

/-- No name follows a position that the path does not pass. -/
theorem nameAfter?_eq_none
    (position path : List Step)
    (passesNot : ∀ step, ¬position ++ [step] <+: path) :
    nameAfter? position path = none := by
  rw [Option.eq_none_iff_forall_ne_some]
  intro name found
  exact passesNot _ ((nameAfter?_eq_some_iff position path name).mp found)

/-! ## One more descriptor -/

section Append

variable (descriptors : List FieldDescriptor) (descriptor : FieldDescriptor)
  (position : List Step)

/-- A further field is the last one at its position, and at no other. -/
theorem lastAt?_append_singleton :
    lastAt? (descriptors ++ [descriptor]) position =
      if descriptor.position = position then some descriptor
      else lastAt? descriptors position := by
  by_cases same : descriptor.position = position <;> simp [lastAt?, same]

/-- Fields go on by a step if they did so before, or the further one does. -/
theorem goesOn_append_singleton_iff (step : Step) :
    GoesOn (descriptors ++ [descriptor]) position step ↔
      GoesOn descriptors position step ∨ position ++ [step] <+: descriptor.position := by
  simp [GoesOn, or_and_right, exists_or]

/-- A further field adds the name by which it goes on from a position. -/
theorem namesAfter_append_singleton :
    namesAfter (descriptors ++ [descriptor]) position =
      namesAfter descriptors position ++ (nameAfter? position descriptor.position).toList := by
  simp only [namesAfter, List.filterMap_append, List.append_cancel_left_eq]
  cases found : nameAfter? position descriptor.position <;> simp [found]

/-- Parents stay first if no earlier field goes on behind the further one. -/
theorem parentsFirst_append_singleton_iff :
    ParentsFirst (descriptors ++ [descriptor]) ↔
      ParentsFirst descriptors ∧ ∀ earlier ∈ descriptors, ¬earlier.Extends descriptor := by
  simp [ParentsFirst, List.pairwise_append]

end Append

/-- The last field at a position is one of the fields there. -/
theorem mem_of_lastAt?
    {descriptors : List FieldDescriptor}
    {position : List Step}
    {last : FieldDescriptor}
    (isLast : lastAt? descriptors position = some last) :
    last ∈ descriptors ∧ last.position = position := by
  simpa using List.mem_of_getLast? isLast

/-- There is a last field at a position unless no field has it. -/
theorem lastAt?_eq_none_iff
    (descriptors : List FieldDescriptor)
    (position : List Step) :
    lastAt? descriptors position = none ↔
      ∀ descriptor ∈ descriptors, descriptor.position ≠ position := by
  simp [lastAt?]

theorem exists_lastAt?_of_mem
    {descriptors : List FieldDescriptor}
    {descriptor : FieldDescriptor}
    (isThere : descriptor ∈ descriptors) :
    ∃ last, lastAt? descriptors descriptor.position = some last := by
  apply Option.ne_none_iff_exists'.mp
  intro absent
  exact (lastAt?_eq_none_iff _ _).mp absent descriptor isThere rfl

/-! ## The order by depth -/

/-- A position that goes on behind another one is no less deep. -/
theorem depth_le_of_isPrefix
    {shorter longer : FieldDescriptor}
    (isPrefix : shorter.position <+: longer.position) :
    shorter.depth ≤ longer.depth := by
  have lengths := isPrefix.length_le
  rw [length_position, length_position] at lengths
  omega

/-- A path that goes on from another is deeper. -/
theorem Extends.depth_lt
    {longer shorter : FieldDescriptor}
    (extends_ : longer.Extends shorter) :
    shorter.depth < longer.depth := by
  obtain ⟨isPrefix, different⟩ := extends_
  have lengths : shorter.position.length ≠ longer.position.length :=
    fun same => different (isPrefix.eq_of_length same)
  rw [length_position, length_position] at lengths
  have bound := depth_le_of_isPrefix isPrefix
  omega

end FieldDescriptor

namespace TypeTree

open FieldDescriptor

/-- No field is lost by sorting, and none is added. -/
theorem byDepth_perm (descriptors : List FieldDescriptor) :
    (byDepth descriptors).Perm descriptors :=
  List.mergeSort_perm descriptors _

theorem depth_le_trans (first second third : FieldDescriptor) :
    decide (first.depth ≤ second.depth) = true →
      decide (second.depth ≤ third.depth) = true →
      decide (first.depth ≤ third.depth) = true := by
  simpa using Nat.le_trans

theorem depth_le_total (left right : FieldDescriptor) :
    (decide (left.depth ≤ right.depth) || decide (right.depth ≤ left.depth)) = true := by
  simpa using Nat.le_total left.depth right.depth

/-- Fields stand in the order of their depth. -/
theorem byDepth_pairwise (descriptors : List FieldDescriptor) :
    (byDepth descriptors).Pairwise fun earlier later => earlier.depth ≤ later.depth := by
  have sorted := List.pairwise_mergeSort depth_le_trans depth_le_total descriptors
  simpa [byDepth] using sorted

/-- A list that is in order by depth stays as it is. -/
theorem byDepth_eq_self
    (descriptors : List FieldDescriptor)
    (inOrder : descriptors.Pairwise fun earlier later => earlier.depth ≤ later.depth) :
    byDepth descriptors = descriptors :=
  List.mergeSort_of_pairwise (inOrder.imp fun ordered => decide_eq_true ordered)

/-- A single field is in order. -/
theorem byDepth_singleton (descriptor : FieldDescriptor) : byDepth [descriptor] = [descriptor] :=
  byDepth_eq_self _ (List.pairwise_singleton _ _)

/-- Sorted by depth, parents come first. -/
theorem byDepth_parentsFirst (descriptors : List FieldDescriptor) :
    ParentsFirst (byDepth descriptors) := by
  refine (byDepth_pairwise descriptors).imp ?_
  intro earlier later ordered extends_
  have deeper := extends_.depth_lt
  omega

/-- Sorting by depth keeps the order of descriptors of one depth. -/
theorem filter_byDepth
    (kept : FieldDescriptor → Bool)
    (depth : Nat)
    (level : ∀ descriptor, kept descriptor = true → descriptor.depth = depth)
    (descriptors : List FieldDescriptor) :
    (byDepth descriptors).filter kept = descriptors.filter kept := by
  have sorted :
      (descriptors.filter kept).Pairwise fun left right =>
        decide (left.depth ≤ right.depth) = true := by
    rw [List.pairwise_filter]
    apply List.pairwise_of_forall
    intro left right keptLeft keptRight
    simp [level left keptLeft, level right keptRight]
  have sublist : (descriptors.filter kept).Sublist (byDepth descriptors) :=
    List.sublist_mergeSort depth_le_trans depth_le_total sorted List.filter_sublist
  have within := sublist.filter kept
  rw [List.filter_filter] at within
  simp only [Bool.and_self] at within
  apply (within.eq_of_length ?_).symm
  exact ((byDepth_perm descriptors).filter kept).length_eq.symm

/-- Sorting by depth keeps the last descriptor of each position. -/
theorem lastAt?_byDepth
    (descriptors : List FieldDescriptor)
    (position : List Step) :
    lastAt? (byDepth descriptors) position = lastAt? descriptors position := by
  unfold lastAt?
  rw [filter_byDepth _ (position.length - 1)]
  intro descriptor same
  have lengths := descriptor.length_position
  simp only [decide_eq_true_eq] at same
  rw [same] at lengths
  omega

end TypeTree
end ProtocolTypes
