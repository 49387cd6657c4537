import ProtocolTypes.Proofs.TypeTree.Description

/-!
# No field is lost or invented

The tree of a list of fields holds every declared field with all that its last descriptor
says, holds a member exactly where some path passes, and says nothing about the containers
that nobody declared (`build_holds_exactly_the_fields`).
-/

namespace ProtocolTypes
namespace TypeTree

open FieldDescriptor

/-- A built tree is the one that its list describes. -/
theorem describes_of_build
    (descriptors : List FieldDescriptor)
    (tree : TypeTree)
    (built : (build descriptors).result = .ok tree) :
    Describes (byDepth descriptors) tree :=
  describes_of_insertAll _ (byDepth_parentsFirst descriptors) tree built

theorem goesOn_byDepth_iff
    (descriptors : List FieldDescriptor)
    (position : List Step)
    (step : Step) :
    GoesOn (byDepth descriptors) position step ↔ GoesOn descriptors position step := by
  simp only [GoesOn, (byDepth_perm descriptors).mem_iff]

namespace Describes

variable {descriptors : List FieldDescriptor} {tree : TypeTree}

/-- A member is there exactly where some path passes. -/
theorem isSome_at?_iff
    (describes : Describes descriptors tree)
    (front : List Step)
    (name : String) :
    (tree.at? (front ++ [.member name])).isSome ↔
      ∃ descriptor ∈ descriptors, front ++ [.member name] <+: descriptor.position := by
  constructor
  · intro isThere
    by_contra nowhere
    simp only [not_exists, not_and] at nowhere
    rw [describes.absent front name nowhere] at isThere
    cases isThere
  · rintro ⟨descriptor, isThere, isPrefix⟩
    obtain ⟨node, found⟩ := describes.exists_node isThere isPrefix
    rw [found]
    rfl

/-- An undeclared container is an array of objects when the paths go on by a wildcard,
and an object when none of them does. -/
theorem outline_of_undeclared
    (describes : Describes descriptors tree)
    (front : List Step)
    (name : String)
    (undeclared : lastAt? descriptors (front ++ [.member name]) = none)
    (node : TypeTree)
    (found : tree.at? (front ++ [.member name]) = some node) :
    (node.outline = array emptyObject .blank ∧
        ∀ step, GoesOn descriptors (front ++ [.member name]) step → step = .element) ∨
      (node.outline = emptyObject ∧
        ∀ step, GoesOn descriptors (front ++ [.member name]) step → step ≠ .element) := by
  have container (step : Step)
      (goesOn : GoesOn descriptors (front ++ [.member name]) step) :
      node.outline = containerFor step := by
    obtain ⟨other, isOther, isContainer⟩ :=
      describes.undeclared front name step undeclared goesOn
    rw [found, Option.some.injEq] at isOther
    rw [isOther, isContainer]
  obtain ⟨made, _, isMade⟩ := describes.containers_agree found undeclared
  cases made with
  | element =>
      refine .inl ⟨isMade, ?_⟩
      intro step goesOn
      have same := container step goesOn
      rw [isMade] at same
      cases step with
      | element => rfl
      | member other => cases same
  | member other =>
      refine .inr ⟨isMade, ?_⟩
      rintro step goesOn rfl
      have same := container .element goesOn
      rw [isMade] at same
      cases same

end Describes

/-- Every field stands at its position as its last descriptor declares it; members are
exactly where paths pass; and where no path ends there is a bare container. -/
theorem build_holds_exactly_the_fields
    (descriptors : List FieldDescriptor)
    (tree : TypeTree)
    (built : (build descriptors).result = .ok tree) :
    (∀ descriptor ∈ descriptors, ∃ last node,
        lastAt? descriptors descriptor.position = some last ∧
        tree.at? descriptor.position = some node ∧
        last.leaf = .ok node.outline) ∧
      (∀ front name, (tree.at? (front ++ [.member name])).isSome ↔
        ∃ descriptor ∈ descriptors, front ++ [.member name] <+: descriptor.position) ∧
      (∀ front name,
        (∃ descriptor ∈ descriptors, front ++ [.member name] <+: descriptor.position) →
        (∀ descriptor ∈ descriptors, descriptor.position ≠ front ++ [.member name]) →
        ∃ node, tree.at? (front ++ [.member name]) = some node ∧
          ((node.outline = array emptyObject .blank ∧
              ∀ step, GoesOn descriptors (front ++ [.member name]) step → step = .element) ∨
            (node.outline = emptyObject ∧
              ∀ step, GoesOn descriptors (front ++ [.member name]) step →
                step ≠ .element))) := by
  have describes := describes_of_build descriptors tree built
  have passes (front : List Step) (name : String) :
      (tree.at? (front ++ [.member name])).isSome ↔
        ∃ descriptor ∈ descriptors, front ++ [.member name] <+: descriptor.position := by
    simpa only [(byDepth_perm descriptors).mem_iff] using describes.isSome_at?_iff front name
  refine ⟨?_, passes, ?_⟩
  · intro descriptor isThere
    obtain ⟨last, isLast⟩ := exists_lastAt?_of_mem isThere
    obtain ⟨node, found, isLeaf⟩ := describes.declared descriptor.position last
      (by rw [lastAt?_byDepth, isLast])
    exact ⟨last, node, isLast, found, isLeaf⟩
  · intro front name passed noneEnds
    obtain ⟨node, found⟩ := Option.isSome_iff_exists.mp ((passes front name).mpr passed)
    have undeclared : lastAt? (byDepth descriptors) (front ++ [.member name]) = none := by
      rw [lastAt?_byDepth, lastAt?_eq_none_iff]
      exact noneEnds
    refine ⟨node, found, ?_⟩
    simpa only [goesOn_byDepth_iff] using
      describes.outline_of_undeclared front name undeclared node found

/-- Two wildcard paths below an undeclared container, and a field that is declared twice. -/
def sampleFields : List FieldDescriptor :=
  [{ path := "items.*.name", declaredType := "String", kind := .request
     description := "The name\nto show", optional := some true },
   { path := "id", declaredType := "Array<Object>", kind := .response },
   { path := "items.*.count", declaredType := "Number", kind := .request },
   { path := "id", declaredType := "Array<Number>", kind := .response
     description := "All of them" }]

/-- The tree of the sample. -/
def sampleTree : TypeTree :=
  .object
    [("id", .array (.scalar .number .blank) { documentation := ["All of them"] }),
     ("items", .array
       (.object
         [("name", .scalar .string
            { optional := true, documentation := ["The name", "to show"] }),
          ("count", .scalar .number .blank)] .blank) .blank)] .blank

theorem build_sampleFields : (build sampleFields).result = .ok sampleTree := by
  have sorted :
      byDepth sampleFields =
        [sampleFields[1], sampleFields[3], sampleFields[0], sampleFields[2]] := by
    simp [byDepth, sampleFields, List.mergeSort, FieldDescriptor.depth]
  have name : sampleFields[0].leaf = .ok (.scalar .string
      { optional := true, documentation := ["The name", "to show"] }) :=
    (leaf_eq_ok_iff _ _).mpr ⟨⟨0, .string⟩, rfl, rfl⟩
  have earlierId : sampleFields[1].leaf = .ok (.array emptyObject .blank) :=
    (leaf_eq_ok_iff _ _).mpr ⟨⟨1, .object⟩, rfl, rfl⟩
  have count : sampleFields[2].leaf = .ok (.scalar .number .blank) :=
    (leaf_eq_ok_iff _ _).mpr ⟨⟨0, .number⟩, rfl, rfl⟩
  have laterId : sampleFields[3].leaf = .ok (.array (.scalar .number .blank)
      { documentation := ["All of them"] }) :=
    (leaf_eq_ok_iff _ _).mpr ⟨⟨1, .number⟩, rfl, rfl⟩
  have namePath : sampleFields[0].segments = ["items", "*", "name"] := rfl
  have earlierPath : sampleFields[1].segments = ["id"] := rfl
  have countPath : sampleFields[2].segments = ["items", "*", "count"] := rfl
  have laterPath : sampleFields[3].segments = ["id"] := rfl
  rw [build, sorted]
  simp [insertAll, insert, insertAt, attach, namePath, earlierPath, countPath, laterPath, name,
    earlierId, count, laterId, wildcard, synthesized, property?, setProperty, Growth.lift,
    Growth.after, Growth.result, emptyObject, sampleTree]

theorem sampleTree_holds_exactly_its_fields :
    (build sampleFields).result = .ok sampleTree ∧
      ∀ front name, (sampleTree.at? (front ++ [.member name])).isSome ↔
        ∃ descriptor ∈ sampleFields, front ++ [.member name] <+: descriptor.position :=
  ⟨build_sampleFields,
    (build_holds_exactly_the_fields sampleFields sampleTree build_sampleFields).2.1⟩

end TypeTree
end ProtocolTypes
