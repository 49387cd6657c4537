import ProtocolTypes.TypeTree.Leaf

/-!
# Insertion

Growing a tree by one descriptor.  Containers that the path needs and that nobody
declared are synthesized on the way down: an array of objects before a wildcard,
an object otherwise.  The outcome holds the tree as far as it grew, also when the
descriptor was refused, with what happened on the way.
-/

namespace ProtocolTypes

/-- What one step of an insertion reports. -/
inductive GrowthStep
  /-- A container was made for a segment that nobody declared. -/
  | synthesized (container : TypeTree) (segment : String)
  /-- A leaf took the place of an earlier one. -/
  | redeclared (path : String)

/-- The outcome of growing a tree. -/
structure Growth where
  /-- The tree as far as it grew. -/
  tree : TypeTree
  steps : List GrowthStep := []
  /-- Why it stopped, if it did. -/
  fault : Option SchemaFault := none

namespace Growth

/-- The tree as it was, refused for that reason. -/
def refused (tree : TypeTree) (fault : SchemaFault) : Growth :=
  { tree := tree, fault := some fault }

/-- The same growth seen from a node above. -/
def lift (above : TypeTree → TypeTree) (growth : Growth) : Growth :=
  { growth with tree := above growth.tree }

/-- The same growth after an earlier step. -/
def after (step : GrowthStep) (growth : Growth) : Growth :=
  { growth with steps := step :: growth.steps }

end Growth

namespace TypeTree

/-- The container that a path makes for a segment, by the segments that follow it. -/
def synthesized : List String → TypeTree
  | next :: _ :: _ => if next = wildcard then array emptyObject .blank else emptyObject
  | _ => emptyObject

/-- Attaches the descriptor's leaf under that name. -/
def attach
    (descriptor : FieldDescriptor)
    (leaf : String)
    (tree : TypeTree) :
    Growth :=
  if leaf = wildcard then .refused tree (.trailingWildcard descriptor.path)
  else
    match tree with
    | object properties note =>
      let steps :=
        if (property? leaf properties).isSome then [.redeclared descriptor.path] else []
      match descriptor.leaf with
      | .ok node => { tree := object (setProperty leaf node properties) note, steps := steps }
      | .error fault =>
        { tree := object properties note, steps := steps, fault := some fault }
    | found => .refused found (.blockedLeaf descriptor.path leaf found)

/-- Grows the tree along the segments and attaches the leaf at their end. -/
def insertAt (descriptor : FieldDescriptor) : List String → TypeTree → Growth
  | [], tree => attach descriptor "" tree
  | [leaf], tree => attach descriptor leaf tree
  | segment :: next :: rest, tree =>
    if segment = wildcard then
      match tree with
      | array (object properties note) arrayNote =>
        (insertAt descriptor (next :: rest) (object properties note)).lift
          fun element => array element arrayNote
      | found => .refused found (.misplacedWildcard descriptor.path found)
    else
      match tree with
      | object properties note =>
        let grown := fun child => object (setProperty segment child properties) note
        match property? segment properties with
        | some child => (insertAt descriptor (next :: rest) child).lift grown
        | none =>
          let child := synthesized (next :: rest)
          ((insertAt descriptor (next :: rest) child).lift grown).after
            (.synthesized child segment)
      | found => .refused found (.blockedDescent descriptor.path segment found)

/-- Grows the tree by one descriptor. -/
def insert (descriptor : FieldDescriptor) (tree : TypeTree) : Growth :=
  insertAt descriptor descriptor.segments tree

/-- Grows the tree by the descriptors in their order, up to the first that is refused. -/
def insertAll : List FieldDescriptor → TypeTree → Growth
  | [], tree => { tree := tree }
  | descriptor :: rest, tree =>
    let first := insert descriptor tree
    match first.fault with
    | some _ => first
    | none =>
      let others := insertAll rest first.tree
      { others with steps := first.steps ++ others.steps }

/-- The descriptors by the number of dots in their paths, equals in their order. -/
def byDepth (descriptors : List FieldDescriptor) : List FieldDescriptor :=
  descriptors.mergeSort fun left right => left.depth ≤ right.depth

/-- Builds the tree of an entity, parents first. -/
def build (descriptors : List FieldDescriptor) : Growth :=
  insertAll (byDepth descriptors) emptyObject

end TypeTree

namespace Growth

/-- The full-grown tree, or why there is none. -/
def result (growth : Growth) : Except SchemaFault TypeTree :=
  match growth.fault with
  | some fault => .error fault
  | none => .ok growth.tree

end Growth
end ProtocolTypes
