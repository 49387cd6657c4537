import ProtocolTypes.Proofs.TypeTree.FieldList
import ProtocolTypes.Proofs.TypeTree.Grown

/-!
# The tree that a list of fields describes

`Describes` is the invariant of a run of insertions in parents-first order: it says of
every position what the tree holds there, given only the list of the descriptors that were
inserted so far.  One insertion keeps it (`Describes.grows`), so every completed run
establishes it (`describes_of_insertAll`).
-/

namespace ProtocolTypes
namespace TypeTree

open FieldDescriptor

/-! ## Runs of insertions -/

theorem insertAll_nil_eq_ok_iff (tree grown : TypeTree) :
    (insertAll [] tree).result = .ok grown ↔ tree = grown := by
  simp [insertAll, Growth.result]

theorem insertAll_cons_eq_ok_iff
    (descriptor : FieldDescriptor)
    (rest : List FieldDescriptor)
    (tree grown : TypeTree) :
    (insertAll (descriptor :: rest) tree).result = .ok grown ↔
      ∃ middle, (insert descriptor tree).result = .ok middle ∧
        (insertAll rest middle).result = .ok grown := by
  cases refused : (insert descriptor tree).fault <;>
    simp [insertAll, Growth.result, refused]

/-- A run completes when its first part does and the rest completes from there. -/
theorem insertAll_append_eq_ok_iff
    (first second : List FieldDescriptor)
    (tree grown : TypeTree) :
    (insertAll (first ++ second) tree).result = .ok grown ↔
      ∃ middle, (insertAll first tree).result = .ok middle ∧
        (insertAll second middle).result = .ok grown := by
  induction first generalizing tree with
  | nil => simp [insertAll_nil_eq_ok_iff]
  | cons descriptor first inductionHypothesis =>
      simp only [List.cons_append, insertAll_cons_eq_ok_iff, inductionHypothesis]
      constructor
      · rintro ⟨inner, inserted, middle, run, rest⟩
        exact ⟨middle, ⟨inner, inserted, run⟩, rest⟩
      · rintro ⟨middle, ⟨inner, inserted, run⟩, rest⟩
        exact ⟨inner, inserted, middle, run, rest⟩

/-- The last insertion of a run grows the tree of the run before it. -/
theorem insertAll_append_singleton_eq_ok_iff
    (descriptors : List FieldDescriptor)
    (descriptor : FieldDescriptor)
    (tree grown : TypeTree) :
    (insertAll (descriptors ++ [descriptor]) tree).result = .ok grown ↔
      ∃ middle leaf, (insertAll descriptors tree).result = .ok middle ∧
        descriptor.leaf = .ok leaf ∧ Grows leaf descriptor.position middle grown := by
  simp only [insertAll_append_eq_ok_iff, insertAll_cons_eq_ok_iff, insertAll_nil_eq_ok_iff,
    exists_eq_right, insert_eq_ok_iff, exists_and_left]

/-! ## The invariant -/

/-- What a tree holds that grew by the descriptors. -/
structure Describes (descriptors : List FieldDescriptor) (tree : TypeTree) : Prop where
  /-- The root is an object about which nothing is said. -/
  root : tree.outline = emptyObject
  /-- Every descriptor has a leaf and a well spaced path that the tree admits. -/
  taken : ∀ descriptor ∈ descriptors,
    (∃ leaf, descriptor.leaf = .ok leaf) ∧ Spaced descriptor.position ∧
      tree.Fits descriptor.position
  /-- Where a path ends stands the leaf of the last descriptor with that path. -/
  declared : ∀ position last, lastAt? descriptors position = some last →
    ∃ node, tree.at? position = some node ∧ last.leaf = .ok node.outline
  /-- Where no path ends but one goes on stands the container for its next step. -/
  undeclared : ∀ front name step,
    lastAt? descriptors (front ++ [.member name]) = none →
    GoesOn descriptors (front ++ [.member name]) step →
    ∃ node, tree.at? (front ++ [.member name]) = some node ∧ node.outline = containerFor step
  /-- Where no path passes there is no member. -/
  absent : ∀ front name,
    (∀ descriptor ∈ descriptors, ¬front ++ [.member name] <+: descriptor.position) →
    tree.at? (front ++ [.member name]) = none
  /-- The properties are named by what follows in the paths, first come first. -/
  ordered : ∀ position node, tree.at? position = some node →
    node.names = (namesAfter descriptors position).eraseDups

namespace Describes

variable {descriptors : List FieldDescriptor} {tree : TypeTree}

/-- Every position on a path exists. -/
theorem exists_node
    (describes : Describes descriptors tree)
    {descriptor : FieldDescriptor}
    (isThere : descriptor ∈ descriptors)
    {position : List Step}
    (isPrefix : position <+: descriptor.position) :
    ∃ node, tree.at? position = some node := by
  obtain ⟨last, isLast⟩ := exists_lastAt?_of_mem isThere
  obtain ⟨node, found, _⟩ := describes.declared _ last isLast
  obtain ⟨back, split⟩ := isPrefix
  rw [← split, at?_append, Option.bind_eq_some_iff] at found
  obtain ⟨above, isAbove, _⟩ := found
  exact ⟨above, isAbove⟩

/-- A node below which a member was undeclared is the container for every next step. -/
theorem containers_agree
    (describes : Describes descriptors tree)
    {front : List Step}
    {name : String}
    {node : TypeTree}
    (found : tree.at? (front ++ [.member name]) = some node)
    (undeclared : lastAt? descriptors (front ++ [.member name]) = none) :
    ∃ step, GoesOn descriptors (front ++ [.member name]) step ∧
      node.outline = containerFor step := by
  by_contra nowhere
  have passes :
      ∃ descriptor ∈ descriptors, front ++ [.member name] <+: descriptor.position := by
    by_contra none
    simp only [not_exists, not_and] at none
    rw [describes.absent front name none] at found
    cases found
  obtain ⟨descriptor, isThere, isPrefix⟩ := passes
  have different := (lastAt?_eq_none_iff _ _).mp undeclared descriptor isThere
  obtain ⟨step, back, split⟩ := exists_step_of_isPrefix isPrefix (Ne.symm different)
  have goesOn : GoesOn descriptors (front ++ [.member name]) step :=
    ⟨descriptor, isThere, (append_singleton_isPrefix_iff _ _ _).mpr ⟨back, split⟩⟩
  obtain ⟨other, sameNode, isContainer⟩ :=
    describes.undeclared front name step undeclared goesOn
  rw [found, Option.some.injEq] at sameNode
  exact nowhere ⟨step, goesOn, by rw [sameNode, isContainer]⟩

end Describes

/-- Nothing but the empty root is described by no descriptors. -/
theorem describes_nil : Describes [] emptyObject where
  root := rfl
  taken := by simp
  declared := by simp [lastAt?]
  undeclared := by simp [GoesOn]
  absent := by
    intro front name _
    exact at?_outline_append_member emptyObject front name
  ordered := by
    intro position node found
    have bare := outline_eq_of_at?_outline emptyObject node position found
    rw [← bare, names_outline]
    simp [namesAfter]

/-! ## One insertion keeps the invariant -/

section Step

variable {descriptors : List FieldDescriptor} {descriptor : FieldDescriptor}
  {tree leaf grown : TypeTree}

/-- Nothing that was inserted passes a position below the new path. -/
theorem not_goesOn_below
    (parentsFirst : ∀ earlier ∈ descriptors, ¬earlier.Extends descriptor)
    {below : List Step}
    {step : Step} :
    ¬GoesOn descriptors (descriptor.position ++ below) step := by
  rintro ⟨earlier, isThere, isPrefix⟩
  have shorter : (descriptor.position ++ (below ++ [step])) <+: earlier.position := by
    simpa using isPrefix
  refine parentsFirst earlier isThere ⟨(List.prefix_append _ _).trans shorter, ?_⟩
  intro same
  have lengths := shorter.length_le
  rw [← same] at lengths
  simp only [List.length_append, List.length_singleton] at lengths
  omega

theorem namesAfter_below
    (parentsFirst : ∀ earlier ∈ descriptors, ¬earlier.Extends descriptor)
    (below : List Step) :
    namesAfter descriptors (descriptor.position ++ below) = [] := by
  simp only [namesAfter, List.filterMap_eq_nil_iff]
  intro earlier isThere
  apply nameAfter?_eq_none
  intro step isPrefix
  exact not_goesOn_below parentsFirst ⟨earlier, isThere, isPrefix⟩

/-- A step's name joins the first appearances of a list of names. -/
theorem withStep_eraseDups
    (names : List String)
    (step : Step) :
    withStep names.eraseDups step = (names ++ step.name?.toList).eraseDups := by
  cases step with
  | element => simp [withStep, Step.name?]
  | member name =>
      by_cases present : name ∈ names <;>
        simp [withStep, Step.name?, List.eraseDups_append, List.eraseDups_cons,
          List.removeAll, present]

namespace Describes

theorem taken_grows
    (describes : Describes descriptors tree)
    (parentsFirst : ∀ earlier ∈ descriptors, ¬earlier.Extends descriptor)
    (grows : Grows leaf descriptor.position tree grown)
    (earlier : FieldDescriptor)
    (isThere : earlier ∈ descriptors) :
    grown.Fits earlier.position := by
  intro front step back node split found
  have fits := (describes.taken earlier isThere).2.2 front step back
  have isPrefix : front <+: earlier.position := ⟨step :: back, split⟩
  obtain ⟨before, wasThere⟩ := describes.exists_node isThere isPrefix
  rcases below_or_above_or_apart front descriptor.position with
    ⟨below, rfl⟩ | ⟨next, later, splitNew⟩ | ⟨notAbove, notBelow⟩
  · exact absurd
      ⟨earlier, isThere, (append_singleton_isPrefix_iff _ _ _).mpr ⟨back, split⟩⟩
      (not_goesOn_below parentsFirst)
  · obtain ⟨after, isAfter, sameOutline⟩ := grows.outline_above splitNew wasThere
    rw [found, Option.some.injEq] at isAfter
    rw [isAfter, ← admits_outline, sameOutline, admits_outline]
    exact fits before split wasThere
  · rw [grows.at?_of_apart front notAbove notBelow] at found
    exact fits node split found

theorem declared_grows
    (describes : Describes descriptors tree)
    (parentsFirst : ∀ earlier ∈ descriptors, ¬earlier.Extends descriptor)
    (resolves : descriptor.leaf = .ok leaf)
    (grows : Grows leaf descriptor.position tree grown)
    (position : List Step)
    (last : FieldDescriptor)
    (isLast : lastAt? (descriptors ++ [descriptor]) position = some last) :
    ∃ node, grown.at? position = some node ∧ last.leaf = .ok node.outline := by
  rw [lastAt?_append_singleton] at isLast
  split at isLast
  · next same =>
      simp only [Option.some.injEq] at isLast
      subst isLast same
      exact ⟨leaf, grows.at?_position, by rw [resolves, outline_leaf descriptor leaf resolves]⟩
  · next different =>
      obtain ⟨before, wasThere, isLeaf⟩ := describes.declared position last isLast
      obtain ⟨isThere, ends⟩ := mem_of_lastAt? isLast
      rcases below_or_above_or_apart position descriptor.position with
        ⟨below, isBelow⟩ | ⟨step, back, split⟩ | ⟨notAbove, notBelow⟩
      · refine absurd ⟨⟨below, ?_⟩, ?_⟩ (parentsFirst last isThere)
        · rw [isBelow, ends]
        · rwa [ends]
      · obtain ⟨after, isAfter, sameOutline⟩ := grows.outline_above split wasThere
        exact ⟨after, isAfter, by rw [sameOutline, isLeaf]⟩
      · exact ⟨before, by rw [grows.at?_of_apart position notAbove notBelow, wasThere], isLeaf⟩

theorem undeclared_grows
    (describes : Describes descriptors tree)
    (parentsFirst : ∀ earlier ∈ descriptors, ¬earlier.Extends descriptor)
    (grows : Grows leaf descriptor.position tree grown)
    (front : List Step)
    (name : String)
    (step : Step)
    (undeclared : lastAt? (descriptors ++ [descriptor]) (front ++ [.member name]) = none)
    (goesOn : GoesOn (descriptors ++ [descriptor]) (front ++ [.member name]) step) :
    ∃ node, grown.at? (front ++ [.member name]) = some node ∧
      node.outline = containerFor step := by
  have undeclaredBefore : lastAt? descriptors (front ++ [.member name]) = none := by
    rw [lastAt?_eq_none_iff] at undeclared ⊢
    exact fun earlier isThere => undeclared earlier (by simp [isThere])
  rw [goesOn_append_singleton_iff] at goesOn
  rcases below_or_above_or_apart (front ++ [.member name]) descriptor.position with
    ⟨below, isBelow⟩ | ⟨next, back, split⟩ | ⟨notAbove, notBelow⟩
  · rw [← isBelow] at goesOn
    rcases goesOn with earlier | new
    · exact absurd earlier (not_goesOn_below parentsFirst)
    · exact absurd new (not_passes_below _ _ _)
  · obtain ⟨after, isAfter, sameOutline, _⟩ := grows.at?_above _ next back split
    refine ⟨after, isAfter, ?_⟩
    rw [sameOutline]
    cases wasThere : tree.at? (front ++ [.member name]) with
    | none =>
        rcases goesOn with earlier | new
        · obtain ⟨before, isBefore, _⟩ :=
            describes.undeclared front name step undeclaredBefore earlier
          rw [wasThere] at isBefore
          cases isBefore
        · rw [step_eq_of_isPrefix new split]
          exact outline_containerFor next
    | some before =>
        rcases goesOn with earlier | new
        · obtain ⟨other, isOther, isContainer⟩ :=
            describes.undeclared front name step undeclaredBefore earlier
          rw [wasThere, Option.some.injEq] at isOther
          rw [isOther]
          exact isContainer
        · obtain ⟨made, _, isContainer⟩ :=
            describes.containers_agree wasThere undeclaredBefore
          have admits := grows.fits _ next back before split wasThere
          rw [← admits_outline, isContainer] at admits
          rw [step_eq_of_isPrefix new split, ← containerFor_eq_of_admits admits]
          exact isContainer
  · have earlier := goesOn.resolve_right fun new =>
      notAbove ((List.prefix_append _ _).trans new)
    obtain ⟨before, isBefore, isContainer⟩ :=
      describes.undeclared front name step undeclaredBefore earlier
    exact ⟨before, by rw [grows.at?_of_apart _ notAbove notBelow, isBefore], isContainer⟩

theorem absent_grows
    (describes : Describes descriptors tree)
    (resolves : descriptor.leaf = .ok leaf)
    (grows : Grows leaf descriptor.position tree grown)
    (front : List Step)
    (name : String)
    (nowhere : ∀ other ∈ descriptors ++ [descriptor],
      ¬front ++ [.member name] <+: other.position) :
    grown.at? (front ++ [.member name]) = none := by
  rcases below_or_above_or_apart (front ++ [.member name]) descriptor.position with
    ⟨below, isBelow⟩ | ⟨next, back, split⟩ | ⟨notAbove, notBelow⟩
  · rw [← isBelow, grows.at?_append]
    rcases List.eq_nil_or_concat below with rfl | ⟨inner, last, rfl⟩
    · refine absurd ?_ (nowhere descriptor (by simp))
      rw [← isBelow]
      simp
    · have sameLast : last = .member name := by
        have ends := congrArg List.getLast? isBelow
        simpa using ends
      rw [← outline_leaf descriptor leaf resolves, List.concat_eq_append, sameLast]
      exact at?_outline_append_member leaf inner name
  · exact absurd ⟨next :: back, split⟩ (nowhere descriptor (by simp))
  · rw [grows.at?_of_apart _ notAbove notBelow]
    exact describes.absent front name fun earlier isThere =>
      nowhere earlier (by simp [isThere])

theorem ordered_grows
    (describes : Describes descriptors tree)
    (parentsFirst : ∀ earlier ∈ descriptors, ¬earlier.Extends descriptor)
    (resolves : descriptor.leaf = .ok leaf)
    (grows : Grows leaf descriptor.position tree grown)
    (position : List Step)
    (node : TypeTree)
    (found : grown.at? position = some node) :
    node.names = (namesAfter (descriptors ++ [descriptor]) position).eraseDups := by
  rw [namesAfter_append_singleton]
  rcases below_or_above_or_apart position descriptor.position with
    ⟨below, rfl⟩ | ⟨step, back, split⟩ | ⟨notAbove, notBelow⟩
  · rw [namesAfter_below parentsFirst, nameAfter?_eq_none _ _ (not_passes_below _ below)]
    rw [grows.at?_append, ← outline_leaf descriptor leaf resolves] at found
    rw [← outline_eq_of_at?_outline leaf node below found, names_outline]
    simp
  · obtain ⟨after, isAfter, _, sameNames⟩ := grows.at?_above position step back split
    rw [found, Option.some.injEq] at isAfter
    rw [isAfter, sameNames, ← split, nameAfter?_append_cons, ← withStep_eraseDups]
    cases wasThere : tree.at? position with
    | some before => simp [describes.ordered position before wasThere]
    | none =>
        have unnamed : namesAfter descriptors position = [] := by
          simp only [namesAfter, List.filterMap_eq_nil_iff]
          intro earlier isThere
          apply nameAfter?_eq_none
          intro next isPrefix
          obtain ⟨before, isBefore⟩ :=
            describes.exists_node isThere ((List.prefix_append _ _).trans isPrefix)
          rw [wasThere] at isBefore
          cases isBefore
        simp [names_containerFor, unnamed]
  · rw [nameAfter?_eq_none _ _ fun step isPrefix =>
      notAbove ((List.prefix_append _ _).trans isPrefix)]
    rw [grows.at?_of_apart position notAbove notBelow] at found
    simp [describes.ordered position node found]

/-- One insertion keeps the invariant, when nothing deeper on its path came before. -/
theorem grows
    (describes : Describes descriptors tree)
    (parentsFirst : ∀ earlier ∈ descriptors, ¬earlier.Extends descriptor)
    (resolves : descriptor.leaf = .ok leaf)
    (grows : Grows leaf descriptor.position tree grown) :
    Describes (descriptors ++ [descriptor]) grown where
  root := by
    obtain ⟨step, back, split⟩ := List.exists_cons_of_ne_nil descriptor.position_ne_nil
    have fromRoot : [] ++ step :: back = descriptor.position := split.symm
    obtain ⟨after, isAfter, sameOutline⟩ := grows.outline_above fromRoot (at?_nil tree)
    simp only [at?_nil, Option.some.injEq] at isAfter
    rw [isAfter, sameOutline, describes.root]
  taken := by
    intro other isThere
    rcases List.mem_append.mp isThere with earlier | new
    · obtain ⟨resolved, spaced, _⟩ := describes.taken other earlier
      exact ⟨resolved, spaced, describes.taken_grows parentsFirst grows other earlier⟩
    · rw [List.mem_singleton.mp new]
      exact ⟨⟨leaf, resolves⟩, grows.spaced, grows.fits_grown⟩
  declared := describes.declared_grows parentsFirst resolves grows
  undeclared := describes.undeclared_grows parentsFirst grows
  absent := describes.absent_grows resolves grows
  ordered := describes.ordered_grows parentsFirst resolves grows

end Describes
end Step

/-- A completed run in parents-first order leaves the tree that its list describes. -/
theorem describes_of_insertAll
    (descriptors : List FieldDescriptor)
    (parentsFirst : ParentsFirst descriptors)
    (tree : TypeTree)
    (completes : (insertAll descriptors emptyObject).result = .ok tree) :
    Describes descriptors tree := by
  induction descriptors using List.reverseRecOn generalizing tree with
  | nil =>
      rw [insertAll_nil_eq_ok_iff] at completes
      rw [← completes]
      exact describes_nil
  | append_singleton descriptors descriptor inductionHypothesis =>
      rw [parentsFirst_append_singleton_iff] at parentsFirst
      obtain ⟨middle, leaf, run, resolves, grows⟩ :=
        (insertAll_append_singleton_eq_ok_iff _ _ _ _).mp completes
      exact (inductionHypothesis parentsFirst.1 middle run).grows parentsFirst.2 resolves grows

end TypeTree
end ProtocolTypes
