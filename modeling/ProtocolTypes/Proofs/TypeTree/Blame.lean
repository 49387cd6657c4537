import ProtocolTypes.Failure
import ProtocolTypes.Proofs.TypeTree.Description
import ProtocolTypes.Proofs.TypeTree.Locality
import ProtocolTypes.Proofs.TypeTree.Refusal

/-!
# Which fault a refused list has

A list of fields is refused for the first field, in the order by depth, that the tree of
the fields before it does not take.  The path of this field is read from left to right in
that tree, with the containers that are made on the way: the leftmost segment that is not
usable where it stands decides the fault, by being a wildcard or a name.  Only where every
segment is usable does the declared type count.
-/

namespace ProtocolTypes
namespace TypeTree

/-! ## Reading a path in a tree -/

/-- What is made for a path that leads out of the tree, under the segment that comes next:
an object as the element of an array that is made, an array of objects under a wildcard
that is not the last segment, and an object under everything else. -/
def madeUnder (front : List String) (segment : String) (later : List String) : TypeTree :=
  if front.getLast? = some wildcard then emptyObject
  else if segment = wildcard ∧ later ≠ [] then array emptyObject .blank
  else emptyObject

/-- What a segment stands under: the node that the segments in front of it lead to, or what
is made there. -/
def under
    (tree : TypeTree)
    (front : List String)
    (segment : String)
    (later : List String) :
    TypeTree :=
  (tree.at? (front.map Step.ofSegment)).getD (madeUnder front segment later)

/-- A wildcard is usable under an array of objects when it is not the last segment, and a
name is usable under an object. -/
def Usable
    (tree : TypeTree)
    (front : List String)
    (segment : String)
    (later : List String) :
    Prop :=
  if segment = wildcard then
    later ≠ [] ∧ ∃ properties note arrayNote,
      tree.under front segment later = array (object properties note) arrayNote
  else ∃ properties note, tree.under front segment later = object properties note

/-- The segments are usable at the start of a path that goes on with the later ones. -/
def UsableUpTo (tree : TypeTree) (front later : List String) : Prop :=
  ∀ earlier segment between, earlier ++ segment :: between = front →
    tree.Usable earlier segment (between ++ later)

/-- The leftmost segment of the path that is not usable, between those in front of it and
the later ones. -/
structure FirstUnusable
    (tree : TypeTree)
    (path front : List String)
    (segment : String)
    (later : List String) :
    Prop where
  split : front ++ segment :: later = path
  before : tree.UsableUpTo front (segment :: later)
  unusable : ¬tree.Usable front segment later

/-- A segment is usable if it is no trailing wildcard and the tree under it admits its step. -/
theorem usable_iff
    (tree : TypeTree)
    (front : List String)
    (segment : String)
    (later : List String) :
    tree.Usable front segment later ↔
      (segment = wildcard → later ≠ []) ∧
        (tree.under front segment later).Admits (Step.ofSegment segment) := by
  unfold Usable
  by_cases same : segment = wildcard
  · rw [if_pos same, same, Step.ofSegment_wildcard, admits_element_iff]
    simp
  · rw [if_neg same, Step.ofSegment_of_ne segment same, admits_member_iff]
    simp [same]

/-! ## One segment further -/

/-- What the rest of a path is read in after its first segment. -/
def beyond (tree : TypeTree) (segment : String) (rest : List String) : TypeTree :=
  (tree.child? (Step.ofSegment segment)).getD (synthesized rest)

theorem madeUnder_cons_cons
    (first second : String)
    (front : List String)
    (segment : String)
    (later : List String) :
    madeUnder (first :: second :: front) segment later =
      madeUnder (second :: front) segment later := by
  simp [madeUnder]

/-- Below a name that is not there a path is read in the containers that are made. -/
theorem under_synthesized
    (name : String)
    (named : name ≠ wildcard)
    (front : List String)
    (segment : String)
    (later : List String) :
    (synthesized (front ++ segment :: later)).under front segment later =
      madeUnder (name :: front) segment later := by
  cases front with
  | nil => cases later <;> simp [under, synthesized, madeUnder, named]
  | cons first front =>
      have isMade : synthesized (first :: front ++ segment :: later) =
          if first = wildcard then array emptyObject .blank else emptyObject := by
        cases front <;> rfl
      rw [madeUnder_cons_cons, under, isMade, List.map_cons]
      by_cases same : first = wildcard
      · rw [if_pos same, same, Step.ofSegment_wildcard, at?_cons, child?, Option.bind_some]
        cases front with
        | nil => simp [madeUnder]
        | cons second front => rw [List.map_cons, at?_emptyObject_cons, Option.getD_none]
      · rw [if_neg same, at?_emptyObject_cons, Option.getD_none]

/-- A segment stands under the same node when the path is read on from its second segment. -/
theorem under_cons
    (tree : TypeTree)
    (first : String)
    (admits : tree.Admits (Step.ofSegment first))
    (front : List String)
    (segment : String)
    (later : List String) :
    tree.under (first :: front) segment later =
      (tree.beyond first (front ++ segment :: later)).under front segment later := by
  unfold beyond
  cases isChild : tree.child? (Step.ofSegment first) with
  | some child =>
      rw [Option.getD_some, under, under, List.map_cons, at?_cons, isChild, Option.bind_some]
      cases front with
      | nil => rfl
      | cons second front => rw [madeUnder_cons_cons]
  | none =>
      have named : first ≠ wildcard := by
        rintro rfl
        rw [Step.ofSegment_wildcard] at admits isChild
        obtain ⟨properties, note, arrayNote, rfl⟩ := (admits_element_iff tree).mp admits
        cases isChild
      rw [Option.getD_none, under_synthesized first named, under, List.map_cons, at?_cons,
        isChild, Option.bind_none, Option.getD_none]

/-- Behind an admitted step, a segment is usable if it is so in the tree beyond. -/
theorem usable_cons_iff
    (tree : TypeTree)
    (first : String)
    (admits : tree.Admits (Step.ofSegment first))
    (front : List String)
    (segment : String)
    (later : List String) :
    tree.Usable (first :: front) segment later ↔
      (tree.beyond first (front ++ segment :: later)).Usable front segment later := by
  rw [usable_iff, usable_iff, under_cons tree first admits]

/-- A path is usable up to a place if its first step is, and the rest beyond. -/
theorem UsableUpTo.cons
    {tree : TypeTree}
    {first : String}
    {front later : List String}
    (usable : tree.Usable [] first (front ++ later))
    (others : (tree.beyond first (front ++ later)).UsableUpTo front later) :
    tree.UsableUpTo (first :: front) later := by
  have admits := ((usable_iff _ _ _ _).mp usable).2
  intro earlier segment between split
  cases earlier with
  | nil =>
      simp only [List.nil_append, List.cons.injEq] at split
      rw [split.1, split.2]
      exact usable
  | cons other earlier =>
      simp only [List.cons_append, List.cons.injEq] at split
      obtain ⟨rfl, split⟩ := split
      have whole : earlier ++ segment :: (between ++ later) = front ++ later := by
        simp [← split]
      rw [usable_cons_iff tree other admits, whole]
      exact others earlier segment between split

/-- The first unusable segment beyond a usable step is that of the whole path. -/
theorem FirstUnusable.cons
    {tree : TypeTree}
    {first : String}
    {rest front later : List String}
    {segment : String}
    (usable : tree.Usable [] first rest)
    (others : (tree.beyond first rest).FirstUnusable rest front segment later) :
    tree.FirstUnusable (first :: rest) (first :: front) segment later := by
  obtain ⟨rfl, before, unusable⟩ := others
  have admits := ((usable_iff _ _ _ _).mp usable).2
  exact ⟨rfl, before.cons usable, by rwa [usable_cons_iff tree first admits]⟩

/-! ## The fault of an insertion -/

/-- The fault for a segment that is not usable where it stands. -/
def blame
    (descriptor : FieldDescriptor)
    (found : TypeTree)
    (segment : String)
    (later : List String) :
    SchemaFault :=
  if segment = wildcard then
    if later = [] then .trailingWildcard descriptor.path
    else .misplacedWildcard descriptor.path found
  else if later = [] then .blockedLeaf descriptor.path segment found
  else .blockedDescent descriptor.path segment found

/-- A misplaced wildcard is blamed as such, any other segment as a conflict. -/
theorem kind_blame
    (descriptor : FieldDescriptor)
    (found : TypeTree)
    (segment : String)
    (later : List String) :
    (blame descriptor found segment later).kind =
      if segment = wildcard then .wildcardPlacement else .structuralConflict := by
  unfold blame
  split <;> split <;> rfl

/-- A leaf that is not usable is blamed before its type is read. -/
theorem fault_attach_of_not_usable
    (descriptor : FieldDescriptor)
    (leaf : String)
    (tree : TypeTree)
    (unusable : ¬tree.Usable [] leaf []) :
    (attach descriptor leaf tree).fault = some (blame descriptor tree leaf []) := by
  unfold attach blame
  by_cases same : leaf = wildcard
  · simp [same, Growth.refused]
  · rw [usable_iff, Step.ofSegment_of_ne leaf same] at unusable
    cases tree with
    | object properties note => exact absurd ⟨fun isWild => absurd isWild same, trivial⟩ unusable
    | scalar kind note | opaqueJson note | array element note => simp [same, Growth.refused]

/-- A usable leaf is refused for its type alone. -/
theorem fault_attach_of_usable
    (descriptor : FieldDescriptor)
    (leaf : String)
    (tree : TypeTree)
    (usable : tree.Usable [] leaf [])
    (fault : SchemaFault) :
    (attach descriptor leaf tree).fault = some fault ↔ descriptor.leaf = .error fault := by
  rw [usable_iff] at usable
  have named : leaf ≠ wildcard := fun same => usable.1 same rfl
  rw [Step.ofSegment_of_ne leaf named, admits_member_iff] at usable
  obtain ⟨_, properties, note, isObject⟩ := usable
  obtain rfl : tree = object properties note := isObject
  unfold attach
  cases descriptor.leaf <;> simp [named]

/-- An insertion stops at a first segment that is not usable. -/
theorem fault_insertAt_of_not_usable
    (descriptor : FieldDescriptor)
    (segment next : String)
    (rest : List String)
    (tree : TypeTree)
    (unusable : ¬tree.Usable [] segment (next :: rest)) :
    (insertAt descriptor (segment :: next :: rest) tree).fault =
      some (blame descriptor tree segment (next :: rest)) := by
  have blocked : ¬tree.Admits (Step.ofSegment segment) := fun admits =>
    unusable ((usable_iff _ _ _ _).mpr ⟨by simp, admits⟩)
  by_cases same : segment = wildcard
  · subst same
    rw [Step.ofSegment_wildcard, admits_element_iff] at blocked
    simp only [insertAt, if_true, blame]
    split
    · next properties note arrayNote => exact absurd ⟨properties, note, arrayNote, rfl⟩ blocked
    · rfl
  · rw [Step.ofSegment_of_ne segment same, admits_member_iff] at blocked
    simp only [insertAt, same, if_false, blame]
    split
    · next properties note => exact absurd ⟨properties, note, rfl⟩ blocked
    · rfl

/-- An insertion goes on below a first segment that is usable. -/
theorem fault_insertAt_of_usable
    (descriptor : FieldDescriptor)
    (segment next : String)
    (rest : List String)
    (tree : TypeTree)
    (usable : tree.Usable [] segment (next :: rest)) :
    (insertAt descriptor (segment :: next :: rest) tree).fault =
      (insertAt descriptor (next :: rest) (tree.beyond segment (next :: rest))).fault := by
  have admits : tree.Admits (Step.ofSegment segment) := ((usable_iff _ _ _ _).mp usable).2
  unfold beyond
  by_cases same : segment = wildcard
  · subst same
    rw [Step.ofSegment_wildcard, admits_element_iff] at admits
    obtain ⟨properties, note, arrayNote, rfl⟩ := admits
    rw [insertAt_element, Step.ofSegment_wildcard]
    rfl
  · rw [Step.ofSegment_of_ne segment same, admits_member_iff] at admits
    obtain ⟨properties, note, rfl⟩ := admits
    rw [(insertAt_name descriptor next rest same properties note).2,
      Step.ofSegment_of_ne segment same]
    rfl

/-- An insertion is refused for the leftmost segment of its path that is not usable; where
all of them are, it is refused exactly when its leaf does not resolve. -/
theorem fault_insertAt
    (descriptor : FieldDescriptor)
    (segments : List String)
    (present : segments ≠ [])
    (tree : TypeTree) :
    (∃ front segment later, tree.FirstUnusable segments front segment later ∧
        (insertAt descriptor segments tree).fault =
          some (blame descriptor (tree.under front segment later) segment later)) ∨
      (tree.UsableUpTo segments [] ∧ ∀ fault,
        (insertAt descriptor segments tree).fault = some fault ↔
          descriptor.leaf = .error fault) := by
  have nothingBefore (tree : TypeTree) (later : List String) : tree.UsableUpTo [] later := by
    intro earlier segment between split
    simp at split
  induction segments generalizing tree with
  | nil => exact absurd rfl present
  | cons segment rest inductionHypothesis =>
      by_cases usable : tree.Usable [] segment rest
      · cases rest with
        | nil =>
            refine .inr ⟨UsableUpTo.cons usable (nothingBefore _ []), ?_⟩
            exact fault_attach_of_usable descriptor segment tree usable
        | cons next rest =>
            rw [fault_insertAt_of_usable descriptor segment next rest tree usable]
            rcases inductionHypothesis (by simp) (tree.beyond segment (next :: rest)) with
              ⟨front, stopped, later, first, isFault⟩ | ⟨others, isFault⟩
            · refine .inl ⟨segment :: front, stopped, later, first.cons usable, ?_⟩
              have admits := ((usable_iff _ _ _ _).mp usable).2
              rw [isFault, under_cons tree segment admits, first.split]
            · refine .inr ⟨UsableUpTo.cons ?_ ?_, isFault⟩
              · rwa [List.append_nil]
              · rwa [List.append_nil]
      · refine .inl ⟨[], segment, rest, ⟨rfl, nothingBefore tree _, usable⟩, ?_⟩
        cases rest with
        | nil => exact fault_attach_of_not_usable descriptor segment tree usable
        | cons next rest =>
            exact fault_insertAt_of_not_usable descriptor segment next rest tree usable

/-! ## The fault of a list -/

/-- The descriptor is the first, in the order by depth, that cannot be built together with
those before it, which build the tree. -/
structure FirstRefused
    (descriptors before : List FieldDescriptor)
    (descriptor : FieldDescriptor)
    (tree : TypeTree) :
    Prop where
  next : before ++ [descriptor] <+: byDepth descriptors
  built : (build before).result = .ok tree
  refused : ∀ grown, (build (before ++ [descriptor])).result ≠ .ok grown

/-- The kind of fault that a descriptor has in a tree: by the leftmost segment of its path
that is not usable, whatever its declared type is, or where there is none for this type. -/
inductive BlamedIn (tree : TypeTree) (descriptor : FieldDescriptor) (fault : SchemaFault) : Prop
  | segment
      (front : List String)
      (segment : String)
      (later : List String)
      (first : tree.FirstUnusable descriptor.segments front segment later)
      (kind : fault.kind = if segment = wildcard then .wildcardPlacement else .structuralConflict) :
      BlamedIn tree descriptor fault
  | declaredType
      (usable : tree.UsableUpTo descriptor.segments [])
      (kind : fault.kind = .unknownType)
      (declared : fault.declaredType = some descriptor.declaredType) :
      BlamedIn tree descriptor fault

/-- What a list in order by depth starts with is built as it is. -/
theorem build_of_isPrefix
    (descriptors start : List FieldDescriptor)
    (isPrefix : start <+: byDepth descriptors) :
    build start = insertAll start emptyObject := by
  rw [build, byDepth_eq_self start ((byDepth_pairwise descriptors).sublist isPrefix.sublist)]

/-- The fault of an insertion blames the first unusable segment of the path. -/
theorem blamedIn_of_insert
    (descriptor : FieldDescriptor)
    (tree : TypeTree)
    (fault : SchemaFault)
    (refused : (insert descriptor tree).fault = some fault) :
    tree.BlamedIn descriptor fault := by
  rcases fault_insertAt descriptor descriptor.segments descriptor.segments_ne_nil tree with
    ⟨front, segment, later, first, isFault⟩ | ⟨usable, unresolved⟩
  · obtain rfl := Option.some.inj (refused.symm.trans isFault)
    exact .segment front segment later first (kind_blame _ _ _ _)
  · obtain rfl := descriptor.fault_of_leaf fault ((unresolved fault).mp refused)
    exact .declaredType usable rfl rfl

/-- A refused list is refused for the first descriptor that is refused: the fault names its
path, and is of the kind for which the descriptor is to blame in the tree before it. -/
theorem build_blames_the_first_refused
    (descriptors : List FieldDescriptor)
    (fault : SchemaFault)
    (refused : (build descriptors).result = .error fault) :
    ∃ before descriptor tree, FirstRefused descriptors before descriptor tree ∧
      fault.path = some descriptor.path ∧ tree.BlamedIn descriptor fault := by
  have stopped : (insertAll (byDepth descriptors) emptyObject).fault = some fault := by
    unfold Growth.result at refused
    split at refused
    · next reason isFault => rw [← Except.error.inj refused, ← isFault, build]
    · cases refused
  obtain ⟨before, descriptor, after, tree, split, completes, stops⟩ :=
    exists_refused_of_insertAll_fault _ _ fault stopped
  have next : before ++ [descriptor] <+: byDepth descriptors := ⟨after, by simp [split]⟩
  have built := build_of_isPrefix descriptors before ((List.prefix_append _ _).trans next)
  refine ⟨before, descriptor, tree, ⟨next, by rw [built, completes], ?_⟩, ?_,
    blamedIn_of_insert descriptor tree fault stops⟩
  · intro grown completed
    rw [build_of_isPrefix descriptors _ next, insertAll_append_eq_ok_iff] at completed
    obtain ⟨middle, isMiddle, last⟩ := completed
    obtain rfl := Except.ok.inj (completes.symm.trans isMiddle)
    rw [insertAll_cons_eq_ok_iff] at last
    obtain ⟨_, inserted, _⟩ := last
    rw [((Growth.result_eq_ok_iff _ _).mp inserted).1] at stops
    cases stops
  · exact path_of_insertAt_fault descriptor _ tree fault stops

/-- A field with a wildcard below a number and a type that does not exist, and the field of
the number. -/
def clashingFields : List FieldDescriptor :=
  [{ path := "size.*.unit", declaredType := "Length", kind := .event },
   { path := "size", declaredType := "Number", kind := .event }]

theorem clashingFields_are_blamed_for_a_wildcard :
    (build clashingFields).result =
        .error (.misplacedWildcard "size.*.unit" (scalar .number .blank)) ∧
      ∃ before descriptor tree, FirstRefused clashingFields before descriptor tree ∧
        some "size.*.unit" = some descriptor.path ∧
        tree.BlamedIn descriptor (.misplacedWildcard "size.*.unit" (scalar .number .blank)) := by
  have sorted : byDepth clashingFields = [clashingFields[1], clashingFields[0]] := by
    simp [byDepth, clashingFields, List.mergeSort, FieldDescriptor.depth]
  have size : clashingFields[1].leaf = .ok (scalar .number .blank) :=
    (FieldDescriptor.leaf_eq_ok_iff _ _).mpr ⟨⟨0, .number⟩, rfl, rfl⟩
  have sizePath : clashingFields[1].segments = ["size"] := rfl
  have unitPath : clashingFields[0].segments = ["size", "*", "unit"] := rfl
  have unitText : clashingFields[0].path = "size.*.unit" := rfl
  have refused : (build clashingFields).result =
      .error (.misplacedWildcard "size.*.unit" (scalar .number .blank)) := by
    rw [build, sorted]
    simp [insertAll, insert, insertAt, attach, sizePath, unitPath, unitText, size, wildcard,
      property?, setProperty, Growth.lift, Growth.refused, Growth.result, emptyObject]
  exact ⟨refused, build_blames_the_first_refused clashingFields _ refused⟩

end TypeTree
end ProtocolTypes
