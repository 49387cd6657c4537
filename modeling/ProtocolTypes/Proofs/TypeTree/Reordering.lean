import ProtocolTypes.Proofs.TypeTree.Position
import Mathlib.Data.List.Basic
import Mathlib.Data.List.Nodup
import Mathlib.Data.List.Perm.Basic

/-!
# Trees up to the order of properties

`Reordered` relates two trees that differ only in the order of the properties inside their
objects.  Trees whose names are distinct are reordered when they have the same outlines at
all positions (`reordered_of_sameOutlines`), and equal when the names stand in the same
order as well (`eq_of_sameOutlines_of_sameNames`).
-/

namespace ProtocolTypes
namespace TypeTree

mutual

/-- The trees differ only in the order of the properties inside their objects. -/
inductive Reordered : TypeTree → TypeTree → Prop
  | scalar (kind : ScalarKind) (note : Note) : Reordered (scalar kind note) (scalar kind note)
  | opaqueJson (note : Note) : Reordered (opaqueJson note) (opaqueJson note)
  | array
      {left right : TypeTree}
      (note : Note)
      (elements : Reordered left right) :
      Reordered (array left note) (array right note)
  | object
      {left middle right : List (String × TypeTree)}
      (note : Note)
      (rearranged : left.Perm middle)
      (matching : ReorderedProperties middle right) :
      Reordered (object left note) (object right note)

/-- The properties have the same names in the same order, under reordered trees. -/
inductive ReorderedProperties :
    List (String × TypeTree) → List (String × TypeTree) → Prop
  | nil : ReorderedProperties [] []
  | cons
      {left right : TypeTree}
      {leftRest rightRest : List (String × TypeTree)}
      (name : String)
      (first : Reordered left right)
      (rest : ReorderedProperties leftRest rightRest) :
      ReorderedProperties ((name, left) :: leftRest) ((name, right) :: rightRest)

end

/-- Induction over a tree, an object being settled once its properties are. -/
theorem induction
    {motive : TypeTree → Prop}
    (scalar : ∀ kind note, motive (.scalar kind note))
    (opaqueJson : ∀ note, motive (.opaqueJson note))
    (object : ∀ properties note,
      (∀ name child, (name, child) ∈ properties → motive child) →
      motive (.object properties note))
    (array : ∀ element note, motive element → motive (.array element note)) :
    ∀ tree, motive tree
  | .scalar kind note => scalar kind note
  | .opaqueJson note => opaqueJson note
  | .object properties note => object properties note fun name child isThere =>
      have _smaller := List.sizeOf_lt_of_mem isThere
      induction scalar opaqueJson object array child
  | .array element note => array element note (induction scalar opaqueJson object array element)
termination_by tree => sizeOf tree
decreasing_by
  · simp only [Prod.mk.sizeOf_spec] at _smaller
    simp only [TypeTree.object.sizeOf_spec]
    omega
  · simp only [TypeTree.array.sizeOf_spec]
    omega

/-! ## Trees of a given outline -/

theorem outline_eq_scalar_iff (tree : TypeTree) (kind : ScalarKind) (note : Note) :
    tree.outline = (scalar kind note).outline ↔ tree = scalar kind note := by
  cases tree <;> simp [outline]

theorem outline_eq_opaqueJson_iff (tree : TypeTree) (note : Note) :
    tree.outline = (opaqueJson note).outline ↔ tree = opaqueJson note := by
  cases tree <;> simp [outline]

/-- A tree has the outline of an object exactly if it is one, with the same note. -/
theorem outline_eq_object_iff
    (tree : TypeTree)
    {properties : List (String × TypeTree)}
    (note : Note) :
    tree.outline = (object properties note).outline ↔
      ∃ others, tree = object others note := by
  cases tree <;> simp [outline]

/-- A tree has the outline of an array exactly if it is one, with an element of the same outline. -/
theorem outline_eq_array_iff (tree element : TypeTree) (note : Note) :
    tree.outline = (array element note).outline ↔
      ∃ other, tree = array other note ∧ other.outline = element.outline := by
  cases tree <;> simp [outline, and_comm]

/-! ## Distinct names -/

/-- No object of the tree has two properties of one name. -/
def WellNamed (tree : TypeTree) : Prop :=
  ∀ position node, tree.at? position = some node → node.names.Nodup

/-- The children of a well-named tree are well-named. -/
theorem WellNamed.child
    {tree child : TypeTree}
    (wellNamed : tree.WellNamed)
    (step : Step)
    (isChild : tree.child? step = some child) :
    child.WellNamed := by
  intro position node found
  exact wellNamed (step :: position) node (by simp [isChild, found])

/-- Among distinct names, a property is found exactly when it is there. -/
theorem property?_eq_some_iff_mem
    (properties : List (String × TypeTree))
    (distinct : (propertyNames properties).Nodup)
    (name : String)
    (tree : TypeTree) :
    property? name properties = some tree ↔ (name, tree) ∈ properties := by
  induction properties with
  | nil => simp [property?]
  | cons property rest inductionHypothesis =>
      obtain ⟨other, child⟩ := property
      simp only [propertyNames, List.map_cons, List.nodup_cons] at distinct
      by_cases same : other = name
      · subst same
        have nowhereElse : (other, tree) ∉ rest := fun isThere =>
          distinct.1 (List.mem_map_of_mem (f := Prod.fst) isThere)
        simp [property?, nowhereElse, eq_comm]
      · simp [property?, same, Ne.symm same, inductionHypothesis distinct.2]

/-! ## Trees with the same outlines -/

/-- The trees hold nodes of the same outline at the same positions. -/
def SameOutlines (left right : TypeTree) : Prop :=
  ∀ position, (left.at? position).map outline = (right.at? position).map outline

theorem SameOutlines.root
    {left right : TypeTree}
    (same : SameOutlines left right) :
    right.outline = left.outline := by
  simpa using (same []).symm

theorem SameOutlines.symm
    {left right : TypeTree}
    (same : SameOutlines left right) :
    SameOutlines right left :=
  fun position => (same position).symm

/-- Trees with the same outlines have children with the same outlines. -/
theorem SameOutlines.child
    {left right child : TypeTree}
    (same : SameOutlines left right)
    (step : Step)
    (isChild : left.child? step = some child) :
    ∃ other, right.child? step = some other ∧ SameOutlines child other := by
  have atStep := same [step]
  simp only [at?_cons, at?_nil, Option.bind_some, isChild, Option.map_some] at atStep
  cases isOther : right.child? step with
  | none => simp [isOther] at atStep
  | some other =>
      refine ⟨other, rfl, ?_⟩
      intro position
      simpa [isChild, isOther] using same (step :: position)

/-- A property has one of the same name and the same outlines on the other side. -/
theorem SameOutlines.property
    {left right : List (String × TypeTree)}
    {leftNote rightNote : Note}
    (same : SameOutlines (object left leftNote) (object right rightNote))
    (leftDistinct : (propertyNames left).Nodup)
    (rightDistinct : (propertyNames right).Nodup)
    {name : String}
    {child : TypeTree}
    (isThere : (name, child) ∈ left) :
    ∃ other, (name, other) ∈ right ∧ SameOutlines child other := by
  have isChild := (property?_eq_some_iff_mem left leftDistinct name child).mpr isThere
  obtain ⟨other, isOther, sameBelow⟩ := same.child (.member name) isChild
  exact ⟨other, (property?_eq_some_iff_mem right rightDistinct name other).mp isOther, sameBelow⟩

/-- Lists of distinct names with reordered trees under the same names can be rearranged
into each other. -/
theorem exists_rearrangement
    (left right : List (String × TypeTree))
    (leftDistinct : (propertyNames left).Nodup)
    (rightDistinct : (propertyNames right).Nodup)
    (forward : ∀ name child, (name, child) ∈ left →
      ∃ other, (name, other) ∈ right ∧ Reordered child other)
    (backward : ∀ name other, (name, other) ∈ right → ∃ child, (name, child) ∈ left) :
    ∃ middle, left.Perm middle ∧ ReorderedProperties middle right := by
  induction right generalizing left with
  | nil =>
      have none : left = [] := by
        rw [List.eq_nil_iff_forall_not_mem]
        rintro ⟨name, child⟩ isThere
        obtain ⟨other, isOther, _⟩ := forward name child isThere
        cases isOther
      exact ⟨[], by rw [none], .nil⟩
  | cons property right inductionHypothesis =>
      obtain ⟨name, other⟩ := property
      obtain ⟨child, isThere⟩ := backward name other (by simp)
      obtain ⟨front, back, rfl⟩ := List.append_of_mem isThere
      have perm : (front ++ (name, child) :: back).Perm ((name, child) :: (front ++ back)) :=
        List.perm_middle
      simp only [propertyNames] at leftDistinct rightDistinct
      have restDistinct := (perm.map Prod.fst).nodup_iff.mp leftDistinct
      simp only [List.map_cons, List.nodup_cons] at restDistinct rightDistinct
      have leftDiffers (otherName : String) (otherChild : TypeTree)
          (isLeft : (otherName, otherChild) ∈ front ++ back) : otherName ≠ name := by
        rintro rfl
        exact restDistinct.1 (List.mem_map_of_mem (f := Prod.fst) isLeft)
      have rightDiffers (otherName : String) (otherChild : TypeTree)
          (isRight : (otherName, otherChild) ∈ right) : otherName ≠ name := by
        rintro rfl
        exact rightDistinct.1 (List.mem_map_of_mem (f := Prod.fst) isRight)
      have restForward (otherName : String) (otherChild : TypeTree)
          (isLeft : (otherName, otherChild) ∈ front ++ back) :
          ∃ counterpart, (otherName, counterpart) ∈ right ∧ Reordered otherChild counterpart := by
        obtain ⟨counterpart, isRight, reordered⟩ :=
          forward otherName otherChild (perm.mem_iff.mpr (List.mem_cons_of_mem _ isLeft))
        exact ⟨counterpart, by simpa [leftDiffers _ _ isLeft] using isRight, reordered⟩
      have restBackward (otherName : String) (counterpart : TypeTree)
          (isRight : (otherName, counterpart) ∈ right) :
          ∃ otherChild, (otherName, otherChild) ∈ front ++ back := by
        obtain ⟨otherChild, isLeft⟩ :=
          backward otherName counterpart (List.mem_cons_of_mem _ isRight)
        have isThere := perm.mem_iff.mp isLeft
        exact ⟨otherChild, by simpa [rightDiffers _ _ isRight] using isThere⟩
      obtain ⟨middle, rearranged, matching⟩ := inductionHypothesis (front ++ back)
        restDistinct.2 rightDistinct.2 restForward restBackward
      obtain ⟨counterpart, isCounterpart, reordered⟩ := forward name child isThere
      rcases List.mem_cons.mp isCounterpart with same | later
      · rw [Prod.mk.injEq] at same
        rw [same.2] at reordered
        exact ⟨(name, child) :: middle, perm.trans (rearranged.cons _),
          .cons name reordered matching⟩
      · exact absurd rfl (rightDiffers _ _ later)

/-- Well named trees with the same outlines are reordered. -/
theorem reordered_of_sameOutlines
    (left right : TypeTree)
    (leftNamed : left.WellNamed)
    (rightNamed : right.WellNamed)
    (same : SameOutlines left right) :
    Reordered left right := by
  induction left using TypeTree.induction generalizing right with
  | scalar kind note =>
      rw [(outline_eq_scalar_iff right kind note).mp same.root]
      exact .scalar kind note
  | opaqueJson note =>
      rw [(outline_eq_opaqueJson_iff right note).mp same.root]
      exact .opaqueJson note
  | array element note inductionHypothesis =>
      obtain ⟨other, rfl, _⟩ := (outline_eq_array_iff right _ note).mp same.root
      obtain ⟨_, isOther, sameBelow⟩ := same.child .element rfl
      rw [← Option.some.inj isOther] at sameBelow
      exact .array note (inductionHypothesis other
        (leftNamed.child .element rfl) (rightNamed.child .element rfl)
        sameBelow)
  | object properties note inductionHypothesis =>
      obtain ⟨others, rfl⟩ := (outline_eq_object_iff right note).mp same.root
      have leftDistinct := leftNamed [] _ rfl
      have rightDistinct := rightNamed [] _ rfl
      have forward (name : String) (child : TypeTree) (isThere : (name, child) ∈ properties) :
          ∃ other, (name, other) ∈ others ∧ Reordered child other := by
        obtain ⟨other, isOther, sameBelow⟩ := same.property leftDistinct rightDistinct isThere
        have isLeft := (property?_eq_some_iff_mem _ leftDistinct name child).mpr isThere
        have isRight := (property?_eq_some_iff_mem _ rightDistinct name other).mpr isOther
        exact ⟨other, isOther, inductionHypothesis name child isThere other
          (leftNamed.child (.member name) isLeft)
          (rightNamed.child (.member name) isRight) sameBelow⟩
      have backward (name : String) (other : TypeTree) (isThere : (name, other) ∈ others) :
          ∃ child, (name, child) ∈ properties := by
        obtain ⟨child, isChild, _⟩ := same.symm.property rightDistinct leftDistinct isThere
        exact ⟨child, isChild⟩
      obtain ⟨middle, rearranged, matching⟩ :=
        exists_rearrangement properties others leftDistinct rightDistinct forward backward
      exact .object note rearranged matching

/-! ## Trees with the same names -/

/-- The trees hold nodes of the same names in the same order at the same positions. -/
def SameNames (left right : TypeTree) : Prop :=
  ∀ position, (left.at? position).map names = (right.at? position).map names

/-- Trees with the same names have children with the same names. -/
theorem SameNames.child
    {left right leftChild rightChild : TypeTree}
    (same : SameNames left right)
    (step : Step)
    (isLeft : left.child? step = some leftChild)
    (isRight : right.child? step = some rightChild) :
    SameNames leftChild rightChild := by
  intro position
  simpa [isLeft, isRight] using same (step :: position)

/-- Lists of the same distinct names are equal when one is part of the other. -/
theorem eq_of_same_propertyNames
    (left right : List (String × TypeTree))
    (distinct : (propertyNames left).Nodup)
    (sameNames : propertyNames left = propertyNames right)
    (part : ∀ property ∈ left, property ∈ right) :
    left = right := by
  induction left generalizing right with
  | nil =>
      cases right with
      | nil => rfl
      | cons property right => simp [propertyNames] at sameNames
  | cons property left inductionHypothesis =>
      cases right with
      | nil => simp [propertyNames] at sameNames
      | cons other right =>
          simp only [propertyNames, List.map_cons, List.cons.injEq, List.nodup_cons]
            at sameNames distinct
          have firstSame : property = other := by
            rcases List.mem_cons.mp (part property (by simp)) with same | later
            · exact same
            · refine absurd ?_ distinct.1
              rw [sameNames.2]
              exact List.mem_map_of_mem later
          subst firstSame
          congr 1
          apply inductionHypothesis right distinct.2 sameNames.2
          intro inner isThere
          rcases List.mem_cons.mp (part inner (by simp [isThere])) with same | later
          · rw [same] at isThere
            exact absurd (List.mem_map_of_mem isThere) distinct.1
          · exact later

/-- Well named trees with the same outlines and the same order of names are equal. -/
theorem eq_of_sameOutlines_of_sameNames
    (left right : TypeTree)
    (leftNamed : left.WellNamed)
    (rightNamed : right.WellNamed)
    (same : SameOutlines left right)
    (sameNames : SameNames left right) :
    left = right := by
  induction left using TypeTree.induction generalizing right with
  | scalar kind note => exact ((outline_eq_scalar_iff right kind note).mp same.root).symm
  | opaqueJson note => exact ((outline_eq_opaqueJson_iff right note).mp same.root).symm
  | array element note inductionHypothesis =>
      obtain ⟨other, rfl, _⟩ := (outline_eq_array_iff right _ note).mp same.root
      obtain ⟨_, isOther, sameBelow⟩ := same.child .element rfl
      rw [← Option.some.inj isOther] at sameBelow
      rw [inductionHypothesis other
        (leftNamed.child .element rfl) (rightNamed.child .element rfl)
        sameBelow (sameNames.child .element rfl rfl)]
  | object properties note inductionHypothesis =>
      obtain ⟨others, rfl⟩ := (outline_eq_object_iff right note).mp same.root
      have leftDistinct := leftNamed [] _ rfl
      have rightDistinct := rightNamed [] _ rfl
      rw [eq_of_same_propertyNames properties others leftDistinct
        (by simpa [names] using sameNames [])]
      rintro ⟨name, child⟩ isThere
      obtain ⟨other, isOther, sameBelow⟩ := same.property leftDistinct rightDistinct isThere
      have isLeft := (property?_eq_some_iff_mem _ leftDistinct name child).mpr isThere
      have isRight := (property?_eq_some_iff_mem _ rightDistinct name other).mpr isOther
      rw [inductionHypothesis name child isThere other
        (leftNamed.child (.member name) isLeft)
        (rightNamed.child (.member name) isRight) sameBelow
        (sameNames.child (.member name) isLeft isRight)]
      exact isOther

end TypeTree
end ProtocolTypes
