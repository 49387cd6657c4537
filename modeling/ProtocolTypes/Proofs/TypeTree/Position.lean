import ProtocolTypes.Proofs.Text.Pieces
import ProtocolTypes.Proofs.TypeTree.DeclaredText

/-!
# Positions in a type tree

A position is a list of steps from the root: to the member of an object with some name,
or to the elements of an array.  The path of a field descriptor names a position, its
wildcards being steps to elements.  What a position holds is told apart in two: the
outline of the node, which forgets its properties, and the names of these properties in
their order.
-/

namespace ProtocolTypes

/-- One step down a type tree. -/
inductive Step
  | member (name : String)
  | element
  deriving DecidableEq, Repr

namespace Step

/-- The step that a path segment stands for. -/
def ofSegment (segment : String) : Step :=
  if segment = wildcard then element else member segment

@[simp] theorem ofSegment_wildcard : ofSegment wildcard = element := by
  simp [ofSegment]

theorem ofSegment_of_ne
    (segment : String)
    (named : segment ≠ wildcard) :
    ofSegment segment = member segment := by
  simp [ofSegment, named]

/-- The name of the member that the step leads to. -/
def name? : Step → Option String
  | member name => some name
  | element => none

/-- Different segments stand for different steps. -/
theorem ofSegment_injective : Function.Injective ofSegment := by
  intro left right equal
  unfold ofSegment at equal
  split at equal <;> split at equal <;> simp_all

end Step

namespace FieldDescriptor

/-- The position that the path names. -/
def position (descriptor : FieldDescriptor) : List Step :=
  descriptor.segments.map Step.ofSegment

theorem segments_ne_nil (descriptor : FieldDescriptor) :
    descriptor.segments ≠ [] := by
  simp [segments, Text.splitAt, List.splitOn_ne_nil]

theorem position_ne_nil (descriptor : FieldDescriptor) :
    descriptor.position ≠ [] := by
  simp [position, segments_ne_nil]

/-- Two paths name one position only when they are the same path. -/
theorem position_eq_iff (left right : FieldDescriptor) :
    left.position = right.position ↔ left.path = right.path := by
  constructor
  · intro equal
    have segmentsEqual : left.segments = right.segments :=
      List.map_injective_iff.mpr Step.ofSegment_injective equal
    have piecesEqual :
        left.path.toList.splitOn '.' = right.path.toList.splitOn '.' :=
      List.map_injective_iff.mpr (fun _ _ => String.ofList_injective) segmentsEqual
    apply String.toList_injective
    calc
      left.path.toList = ['.'].intercalate (left.path.toList.splitOn '.') :=
        (List.intercalate_splitOn '.').symm
      _ = ['.'].intercalate (right.path.toList.splitOn '.') := by rw [piecesEqual]
      _ = right.path.toList := List.intercalate_splitOn '.'
  · intro equal
    simp [position, segments, equal]

end FieldDescriptor

namespace FieldDescriptor

/-- No segment of a path has a dot. -/
theorem not_mem_of_mem_segments
    (descriptor : FieldDescriptor)
    (segment : String)
    (isThere : segment ∈ descriptor.segments) :
    '.' ∉ segment.toList := by
  obtain ⟨piece, isPiece, rfl⟩ := List.mem_map.mp isThere
  rw [String.toList_ofList]
  exact Text.not_mem_of_mem_splitOn '.' descriptor.path.toList piece isPiece

/-- The depth of a path is the number of steps above its leaf. -/
theorem length_position (descriptor : FieldDescriptor) :
    descriptor.position.length = descriptor.depth + 1 := by
  simp [position, segments, depth, Text.length_splitAt]

end FieldDescriptor

namespace TypeTree

/-- The node one step below. -/
def child? : TypeTree → Step → Option TypeTree
  | object properties _, .member name => property? name properties
  | array element _, .element => some element
  | _, _ => none

/-- The node at a position. -/
def at? (tree : TypeTree) : List Step → Option TypeTree
  | [] => some tree
  | step :: rest => (tree.child? step).bind fun child => child.at? rest

@[simp] theorem at?_nil (tree : TypeTree) : tree.at? [] = some tree := rfl

@[simp] theorem at?_cons
    (tree : TypeTree)
    (step : Step)
    (rest : List Step) :
    tree.at? (step :: rest) = (tree.child? step).bind fun child => child.at? rest := rfl

/-- The empty object holds nothing. -/
@[simp] theorem at?_emptyObject_cons (step : Step) (rest : List Step) :
    emptyObject.at? (step :: rest) = none := by
  cases step <;> rfl

theorem at?_append
    (tree : TypeTree)
    (front back : List Step) :
    tree.at? (front ++ back) = (tree.at? front).bind fun node => node.at? back := by
  induction front generalizing tree with
  | nil => rfl
  | cons step front inductionHypothesis =>
      simp only [List.cons_append, at?_cons, Option.bind_assoc]
      congr 1
      funext child
      exact inductionHypothesis child

theorem at?_append_singleton
    (tree : TypeTree)
    (front : List Step)
    (step : Step) :
    tree.at? (front ++ [step]) = (tree.at? front).bind fun node => node.child? step := by
  rw [at?_append]
  congr 1
  funext node
  simp

/-- The node without the properties of its objects: its variant, down through the arrays
around it, and what is said about it. -/
def outline : TypeTree → TypeTree
  | scalar kind note => scalar kind note
  | opaqueJson note => opaqueJson note
  | object _ note => object [] note
  | array element note => array element.outline note

/-- The names of an object's properties in their order. -/
def names : TypeTree → List String
  | object properties _ => propertyNames properties
  | _ => []

@[simp] theorem outline_outline (tree : TypeTree) :
    tree.outline.outline = tree.outline := by
  fun_induction outline tree with
  | case1 kind note => rfl
  | case2 note => rfl
  | case3 properties note => rfl
  | case4 element note inductionHypothesis => simp [outline, inductionHypothesis]

@[simp] theorem names_outline (tree : TypeTree) : tree.outline.names = [] := by
  cases tree <;> rfl

/-- An outline has nothing below it but the outlines of its elements. -/
theorem child?_outline (tree : TypeTree) (step : Step) :
    tree.outline.child? step =
      match step with
      | .member _ => none
      | .element => (tree.child? .element).map outline := by
  cases tree <;> cases step <;> rfl

/-- Whatever lies below an outline is an outline itself. -/
theorem outline_eq_of_at?_outline
    (tree node : TypeTree)
    (position : List Step)
    (found : tree.outline.at? position = some node) :
    node.outline = node := by
  induction position generalizing tree with
  | nil =>
      simp only [at?_nil, Option.some.injEq] at found
      rw [← found, outline_outline]
  | cons step rest inductionHypothesis =>
      simp only [at?_cons, child?_outline, Option.bind_eq_some_iff] at found
      obtain ⟨child, isChild, below⟩ := found
      cases step with
      | member name => simp at isChild
      | element =>
          simp only [Option.map_eq_some_iff] at isChild
          obtain ⟨element, _, rfl⟩ := isChild
          exact inductionHypothesis element below

/-- No member lies below an outline. -/
theorem at?_outline_append_member
    (tree : TypeTree)
    (position : List Step)
    (name : String) :
    tree.outline.at? (position ++ [.member name]) = none := by
  rw [at?_append_singleton, Option.bind_eq_none_iff]
  intro node found
  rw [← outline_eq_of_at?_outline tree node position found, child?_outline]

end TypeTree

namespace DeclaredType

/-- Wrapping in arrays keeps an outline an outline. -/
theorem outline_wrap
    (depth : Nat)
    (tree : TypeTree)
    (bare : tree.outline = tree) :
    (wrap depth tree).outline = wrap depth tree := by
  induction depth with
  | zero => exact bare
  | succ depth inductionHypothesis =>
      simp [wrap, TypeTree.outline, inductionHypothesis]

/-- The tree of a declared type has no properties. -/
theorem outline_tree (declared : DeclaredType) :
    declared.tree.outline = declared.tree := by
  apply outline_wrap
  cases declared.base <;> rfl

end DeclaredType

namespace TypeTree

theorem outline_withNote
    (note : Note)
    (tree : TypeTree)
    (bare : tree.outline = tree) :
    (tree.withNote note).outline = tree.withNote note := by
  cases tree <;> simp_all [outline, withNote]

end TypeTree

namespace FieldDescriptor

/-- A leaf has no properties. -/
theorem outline_leaf
    (descriptor : FieldDescriptor)
    (leaf : TypeTree)
    (resolves : descriptor.leaf = .ok leaf) :
    leaf.outline = leaf := by
  obtain ⟨declared, _, rfl⟩ := (descriptor.leaf_eq_ok_iff leaf).mp resolves
  exact TypeTree.outline_withNote _ _ declared.outline_tree

end FieldDescriptor
end ProtocolTypes
