import ProtocolTypes.Document.Value
import ProtocolTypes.Document.Key
import ProtocolTypes.Yaml.Node

/-!
# Objects

What nodes stand for, one step deep: a collection refers to what it holds by the numbers
of the nodes, so that it may hold itself.  Only values that are no collections are keys.
-/

namespace ProtocolTypes
namespace Yaml

/-- A value that is no collection. -/
structure Leaf where
  value : Value
  /-- The node that it was read from; a value that all nodes share has none. -/
  source : Option NodeId

namespace Leaf

/-- Whether two values are one key.  What is no number differs from all that was read from
other nodes. -/
def isSameKey (first second : Leaf) : Bool :=
  match first.value, second.value with
  | .float left, .float right =>
    if left.isNaN && right.isNaN then first.source == second.source
    else Value.isSameKey (.float left) (.float right)
  | left, right => Value.isSameKey left right

end Leaf

/-- What a node stands for. -/
inductive Object
  | leaf (content : Leaf)
  | list (items : List NodeId)
  | map (entries : List (Leaf × NodeId))
  | set (members : List Leaf)
  /-- A list of pairs. -/
  | pairs (items : List (NodeId × NodeId))

namespace Object

/-- Sets the entry under a key: one that is present keeps its place and its spelling. -/
def setEntry (key : Leaf) (value : NodeId) :
    List (Leaf × NodeId) → List (Leaf × NodeId)
  | [] => [(key, value)]
  | (other, old) :: rest =>
    if Leaf.isSameKey other key then (other, value) :: rest
    else (other, old) :: setEntry key value rest

/-- The map of entries, of which a later one takes the value of an earlier. -/
def entriesOf (entries : List (Leaf × NodeId)) : List (Leaf × NodeId) :=
  entries.foldl (fun known (key, value) => setEntry key value known) []

/-- The nodes that an object holds. -/
def parts : Object → List NodeId
  | leaf _ => []
  | list items => items
  | map entries => entries.map Prod.snd
  | set _ => []
  | pairs items => items.flatMap fun (first, second) => [first, second]

/-- The value of an object, given those of the nodes that it holds. -/
def toValue (part : NodeId → Value) : Object → Value
  | leaf content => content.value
  | list items => .list (items.map part)
  | map entries => .map (entries.map fun (key, value) => (key.value, part value))
  | set members => .set (members.map Leaf.value)
  | pairs items => .list (items.map fun (first, second) => .list [part first, part second])

/-- The collection of the same kind that holds nothing. -/
def emptied : Object → Object
  | leaf content => leaf content
  | list _ => list []
  | map _ => map []
  | set members => set members
  | pairs _ => pairs []

end Object
end Yaml
end ProtocolTypes
