import ProtocolTypes.Yaml.Tag

/-!
# YAML nodes

The scalars, sequences and mappings of a document, each known by a number.  An alias is
one more use of a number, so two collections may share a node, and a collection may hold
itself.
-/

namespace ProtocolTypes
namespace Yaml

/-- The number of a node in its document. -/
abbrev NodeId := Nat

/-- What a node is made of. -/
inductive Shape
  | scalar (text : String)
  | sequence (items : List NodeId)
  | mapping (entries : List (NodeId × NodeId))
  deriving Repr

/-- A node of a document. -/
structure Node where
  tag : Tag
  shape : Shape

namespace Node

/-- The empty node that stands where nothing is written. -/
def empty : Node := ⟨.null, .scalar ""⟩

/-- The entries of a mapping; other nodes have none. -/
def entries (node : Node) : List (NodeId × NodeId) :=
  match node.shape with
  | .mapping entries => entries
  | _ => []

end Node

/-- The nodes of a document by their numbers. -/
structure Graph where
  nodes : Array Node := #[]

namespace Graph

/-- The node of a number. -/
def node (graph : Graph) (id : NodeId) : Node :=
  graph.nodes[id]?.getD Node.empty

/-- The graph with another node, whose number is the former size. -/
def add (node : Node) (graph : Graph) : Graph :=
  { nodes := graph.nodes.push node }

/-- The graph with that node in the place of the one of that number. -/
def put (id : NodeId) (node : Node) (graph : Graph) : Graph :=
  { nodes := graph.nodes.setIfInBounds id node }

/-- The graph with other entries in a mapping. -/
def setEntries (id : NodeId) (entries : List (NodeId × NodeId)) (graph : Graph) : Graph :=
  graph.put id ⟨(graph.node id).tag, .mapping entries⟩

/-- The graph with another tag on a node. -/
def setTag (id : NodeId) (tag : Tag) (graph : Graph) : Graph :=
  graph.put id ⟨tag, (graph.node id).shape⟩

/-- The number of nodes. -/
def size (graph : Graph) : Nat := graph.nodes.size

end Graph
end Yaml
end ProtocolTypes
