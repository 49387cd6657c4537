import Mathlib.Data.List.Nodup
import ProtocolTypes.Proofs.TypeTree.Coverage
import ProtocolTypes.Proofs.TypeTree.Locality

/-!
# What an insertion notes

A completed insertion makes a container at each place that its path goes on from and where
the tree holds nothing, and it finds something at its end or not.  Its notes are read off the
tree it began with (`steps_insert`), and the notes of a run are those of its insertions.
-/

namespace ProtocolTypes

/-- The place of a member: the position of the object that has it, and its name. -/
structure Place where
  above : List Step
  name : String
  deriving DecidableEq, Repr

namespace Place

/-- The position of the member itself. -/
def position (place : Place) : List Step :=
  place.above ++ [.member place.name]

/-- The same place seen from one step further up. -/
def under (step : Step) (place : Place) : Place :=
  { place with above := step :: place.above }

@[simp] theorem position_under (step : Step) (place : Place) :
    (place.under step).position = step :: place.position := rfl

theorem under_injective (step : Step) : Function.Injective (under step) := by
  rintro ⟨above, name⟩ ⟨otherAbove, otherName⟩ same
  simpa [under] using same

/-- The places that the path goes on from, from the root down. -/
def along : List Step → List Place
  | .member name :: next :: rest =>
      ⟨[], name⟩ :: (along (next :: rest)).map (under (.member name))
  | .element :: next :: rest => (along (next :: rest)).map (under .element)
  | _ => []

/-- Places under a step are those of the tree that the step leads to. -/
theorem mem_map_under_iff (places : List Place) (step : Step) (place : Place) :
    place ∈ places.map (under step) ↔
      ∃ above, place.above = step :: above ∧ ⟨above, place.name⟩ ∈ places := by
  rw [List.mem_map]
  constructor
  · rintro ⟨lower, isThere, rfl⟩
    exact ⟨lower.above, rfl, isThere⟩
  · rintro ⟨above, isUnder, isThere⟩
    exact ⟨_, isThere, by simp [under, ← isUnder]⟩

/-- A path goes on from the places whose positions are proper prefixes of it. -/
theorem mem_along_iff (path : List Step) (place : Place) :
    place ∈ along path ↔ place.position <+: path ∧ place.position ≠ path := by
  obtain ⟨above, name⟩ := place
  fun_induction along path generalizing above with
  | case1 other next rest inductionHypothesis =>
      cases above with
      | nil => simp [mem_map_under_iff, position]
      | cons first above =>
          by_cases same : first = .member other <;>
            simp [mem_map_under_iff, position, inductionHypothesis, same]
  | case2 next rest inductionHypothesis =>
      cases above with
      | nil => simp [mem_map_under_iff, position]
      | cons first above =>
          by_cases same : first = .element <;>
            simp [mem_map_under_iff, position, inductionHypothesis, same]
  | case3 path short =>
      -- A path of at most one step has no proper prefix that ends in a name.
      rcases path with _ | ⟨first, _ | ⟨second, rest⟩⟩
      · simp [position]
      · cases above <;> cases first <;> simp [position]
      · cases first with
        | member other => exact absurd rfl (short other second rest)
        | element => simp_all

/-- No place is passed twice on a path. -/
theorem nodup_along (path : List Step) : (along path).Nodup := by
  fun_induction along path with
  | case1 name next rest inductionHypothesis =>
      refine List.nodup_cons.mpr ⟨?_, List.Nodup.map (under_injective _) inductionHypothesis⟩
      simp [mem_map_under_iff]
  | case2 next rest inductionHypothesis =>
      exact List.Nodup.map (under_injective _) inductionHypothesis
  | case3 => exact List.nodup_nil

end Place

namespace TypeTree

open FieldDescriptor

/-! ## The steps of one insertion -/

/-- A well spaced path ends at a member. -/
theorem Spaced.exists_place
    {path : List Step}
    (spaced : Spaced path)
    (present : path ≠ []) :
    ∃ place : Place, place.position = path := by
  obtain ⟨above, last, rfl⟩ := (List.eq_nil_or_concat path).resolve_left present
  cases last with
  | member name => exact ⟨⟨above, name⟩, by simp [Place.position]⟩
  | element => exact absurd (by simp) spaced.named_last

/-- The places that the path goes on from and where the tree holds nothing. -/
def missing (tree : TypeTree) (path : List Step) : List Place :=
  (Place.along path).filter fun place => (tree.at? place.position).isNone

/-- The container that the path needs at the place. -/
def containerOn (path : List Step) (place : Place) : TypeTree :=
  if place.position ++ [.element] <+: path then containerFor .element else emptyObject

theorem containerOn_under (step : Step) (path : List Step) (place : Place) :
    containerOn (step :: path) (place.under step) = containerOn path place := by
  simp [containerOn]

theorem containerOn_cons (name : String) (next : Step) (rest : List Step) :
    containerOn (.member name :: next :: rest) ⟨[], name⟩ = containerFor next := by
  cases next <;> simp [containerOn, Place.position, containerFor]

/-- What is noted when a container is made at the place. -/
def synthesisOn (path : List Step) (place : Place) : GrowthStep :=
  .synthesized (containerOn path place) place.name

/-- Below a step a tree misses what its node there misses. -/
theorem map_synthesisOn_under
    (tree : TypeTree)
    (step : Step)
    (path : List Step)
    (places : List Place) :
    ((places.map (Place.under step)).filter fun place =>
        (tree.at? place.position).isNone).map (synthesisOn (step :: path)) =
      (places.filter fun place =>
        (tree.at? (step :: place.position)).isNone).map (synthesisOn path) := by
  simp only [List.filter_map, List.map_map, Function.comp_def, Place.position_under, synthesisOn,
    containerOn_under]
  rfl

/-- A container holds no member. -/
theorem at?_containerFor_position (step : Step) (place : Place) :
    (containerFor step).at? place.position = none := by
  rw [← outline_containerFor, Place.position, at?_outline_append_member]

/-- What a completed insertion notes: the containers that were missing, and its own path when
something stood at its end. -/
def noted (descriptor : FieldDescriptor) (tree : TypeTree) (path : List Step) :
    List GrowthStep :=
  (missing tree path).map (synthesisOn path) ++
    (if (tree.at? path).isSome then [.redeclared descriptor.path] else [])

section Noted

variable (descriptor : FieldDescriptor) (next : Step) (rest : List Step)

/-- At the end of a path it is noted whether something was there. -/
theorem noted_singleton (tree : TypeTree) (step : Step) :
    noted descriptor tree [step] =
      if (tree.child? step).isSome then [.redeclared descriptor.path] else [] := by
  cases step <;> simp [noted, missing, Place.along]

theorem noted_element (element : TypeTree) (note : Note) :
    noted descriptor (array element note) (.element :: next :: rest) =
      noted descriptor element (next :: rest) := by
  have below (position : List Step) :
      (array element note).at? (.element :: position) = element.at? position := by
    simp [child?]
  simp only [noted, missing, Place.along, map_synthesisOn_under, below]

/-- What is noted behind a property is noted of the property. -/
theorem noted_member
    {name : String}
    {child : TypeTree}
    {properties : List (String × TypeTree)}
    (isChild : property? name properties = some child)
    (note : Note) :
    noted descriptor (object properties note) (.member name :: next :: rest) =
      noted descriptor child (next :: rest) := by
  have below (position : List Step) :
      (object properties note).at? (.member name :: position) = child.at? position := by
    simp [child?, isChild]
  have present : ((object properties note).at? (Place.mk [] name).position).isNone = false := by
    simp [Place.position, child?, isChild]
  simp only [noted, missing, Place.along, List.filter_cons, present, Bool.false_eq_true,
    if_false, map_synthesisOn_under, below]

/-- Where a property is missing, it is noted as synthesized, and all behind it. -/
theorem noted_absent
    {name : String}
    {properties : List (String × TypeTree)}
    (absent : property? name properties = none)
    (note : Note)
    (spaced : Spaced (next :: rest)) :
    noted descriptor (object properties note) (.member name :: next :: rest) =
      .synthesized (containerFor next) name ::
        noted descriptor (containerFor next) (next :: rest) := by
  have below (position : List Step) :
      (object properties note).at? (.member name :: position) = none := by
    simp [child?, absent]
  have missed : ((object properties note).at? (Place.mk [] name).position).isNone = true := by
    simp [Place.position, child?, absent]
  have nothing : (containerFor next).at? (next :: rest) = none := by
    obtain ⟨place, ends⟩ := spaced.exists_place (by simp)
    rw [← ends, at?_containerFor_position]
  simp only [noted, missing, Place.along, List.filter_cons, missed, if_true, List.map_cons,
    map_synthesisOn_under, below, nothing, at?_containerFor_position]
  simp [synthesisOn, containerOn_cons]

end Noted

/-- Attaching a leaf notes what is told of the last step. -/
theorem steps_attach
    (descriptor : FieldDescriptor)
    (segment : String)
    (tree grown : TypeTree)
    (completes : (attach descriptor segment tree).result = .ok grown) :
    (attach descriptor segment tree).steps =
      noted descriptor tree [Step.ofSegment segment] := by
  obtain ⟨leaf, resolves, grows⟩ :=
    (attach_eq_ok_iff descriptor segment tree grown).mp completes
  have named : segment ≠ wildcard := by
    rintro rfl
    rw [Step.ofSegment_wildcard] at grows
    exact not_grows_element _ _ _ grows
  rw [Step.ofSegment_of_ne segment named] at grows ⊢
  cases grows with
  | attach name properties note =>
      simp only [noted_singleton, attach, named, if_false, resolves]
      rfl

/-- A completed insertion notes what was missing on its way, and what it replaces. -/
theorem steps_insertAt
    (descriptor : FieldDescriptor)
    (segments : List String)
    (present : segments ≠ [])
    (tree grown : TypeTree)
    (completes : (insertAt descriptor segments tree).result = .ok grown) :
    (insertAt descriptor segments tree).steps =
      noted descriptor tree (segments.map Step.ofSegment) := by
  induction segments generalizing tree grown with
  | nil => exact absurd rfl present
  | cons segment rest inductionHypothesis =>
      cases rest with
      | nil => exact steps_attach descriptor segment tree grown completes
      | cons next rest =>
          have below := inductionHypothesis (by simp)
          by_cases same : segment = wildcard
          · subst same
            obtain ⟨properties, note, arrayNote, inner, rfl, completes, _⟩ :=
              (insertAt_wildcard_eq_ok_iff descriptor next rest tree grown).mp completes
            simp only [List.map_cons, Step.ofSegment_wildcard, noted_element, insertAt_element]
            exact below _ inner completes
          · obtain ⟨properties, note, inner, rfl, completes, _⟩ :=
              (insertAt_name_eq_ok_iff descriptor segment next same rest tree grown).mp completes
            simp only [List.map_cons, Step.ofSegment_of_ne segment same]
            cases isChild : property? segment properties with
            | some child =>
                rw [isChild, Option.getD_some] at completes
                rw [noted_member descriptor _ _ isChild]
                simp only [insertAt, same, if_false, isChild]
                exact below child inner completes
            | none =>
                rw [isChild, Option.getD_none] at completes
                obtain ⟨leaf, _, grows⟩ := (insertAt_eq_ok_iff descriptor (next :: rest)
                  (by simp) _ _).mp completes
                have goesOn : next = wildcard → rest ≠ [] := by
                  rintro rfl rfl
                  rw [List.map_singleton, Step.ofSegment_wildcard] at grows
                  exact not_grows_element _ _ _ grows
                rw [noted_absent descriptor _ _ isChild note grows.spaced]
                simp only [insertAt, same, if_false, isChild,
                  synthesized_eq_containerFor next rest goesOn]
                exact congrArg _ (below _ inner completes)

/-- A descriptor that is taken notes what was missing on its path, and what it replaces. -/
theorem steps_insert
    (descriptor : FieldDescriptor)
    (tree grown : TypeTree)
    (completes : (insert descriptor tree).result = .ok grown) :
    (insert descriptor tree).steps = noted descriptor tree descriptor.position :=
  steps_insertAt descriptor descriptor.segments descriptor.segments_ne_nil tree grown completes

/-- A completed run notes what its insertions note, one after the other. -/
theorem steps_insertAll_append_singleton
    (descriptors : List FieldDescriptor)
    (descriptor : FieldDescriptor)
    (tree middle : TypeTree)
    (completes : (insertAll descriptors tree).result = .ok middle) :
    (insertAll (descriptors ++ [descriptor]) tree).steps =
      (insertAll descriptors tree).steps ++ (insert descriptor middle).steps := by
  induction descriptors generalizing tree with
  | nil =>
      obtain rfl := (insertAll_nil_eq_ok_iff tree middle).mp completes
      cases refused : (insert descriptor tree).fault <;> simp [insertAll, refused]
  | cons first rest inductionHypothesis =>
      obtain ⟨inner, inserted, run⟩ :=
        (insertAll_cons_eq_ok_iff first rest tree middle).mp completes
      obtain ⟨noFault, rfl⟩ := (Growth.result_eq_ok_iff _ _).mp inserted
      simp only [List.cons_append, insertAll, noFault, inductionHypothesis _ run,
        List.append_assoc]

end TypeTree
end ProtocolTypes
