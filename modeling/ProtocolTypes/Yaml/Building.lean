import ProtocolTypes.Yaml.Merge
import ProtocolTypes.Yaml.Object
import ProtocolTypes.Yaml.Reading
import ProtocolTypes.Yaml.Scalar

/-!
# Building objects

The objects that the nodes of a document stand for.  A collection is there at once, and
empty; it is filled when its turn comes, after all that were met before it.  So what lies
less deep is looked at first, and a collection may be met again inside itself.
-/

namespace ProtocolTypes
namespace Yaml

/-- The objects so far. -/
structure Building where
  graph : Graph
  /-- The objects by the numbers of their nodes. -/
  objects : Array (Option Object)
  /-- The collections in the order in which they were met. -/
  collections : Array NodeId := #[]

/-- A step of building. -/
abbrev BuildStep := StateT Building (Except (Interruption Fault))

namespace Building

/-- Ends the building with a fault. -/
def fail {α : Type} (fault : Fault) : BuildStep α :=
  throw (.reported fault)

/-- The node of a number as it is now. -/
def node (id : NodeId) : BuildStep Node := do
  return (← get).graph.node id

/-- Keeps the object of a node. -/
def keep (id : NodeId) (object : Object) : BuildStep Unit :=
  modify fun building =>
    { building with objects := building.objects.setIfInBounds id (some object) }

/-- How the text of a scalar with that tag is read, unless the tag is none for scalars. -/
def scalarReader? : Tag → Option (List Char → Scalar.Outcome Value)
  | .null => some fun _ => .ok .null
  | .bool => some fun text => (Scalar.bool text).map .bool
  | .int => some fun text => (Scalar.integer text).map .int
  | .float => some fun text => (Scalar.float text).map .float
  | .str => some fun text => .ok (.str (String.ofList text))
  | .timestamp => some Scalar.timestamp
  | .binary => some Scalar.binary
  | _ => none

/-- The empty collection of a tag, unless the tag is none for collections. -/
def emptyCollection? : Tag → Option Object
  | .seq => some (.list [])
  | .map => some (.map [])
  | .set => some (.set [])
  | .omap => some (.pairs [])
  | .pairs => some (.pairs [])
  | _ => none

/-- The text of a node that has to be a scalar; a mapping has the text of its default,
which may be a mapping again but not for ever. -/
def scalarText (graph : Graph) : Nat → NodeId → Scalar.Outcome String
  | 0, _ => Scalar.broken .endless
  | fuel + 1, id =>
    match (graph.node id).shape with
    | .scalar text => .ok text
    | .sequence _ => .error (.reported .wrongNode)
    | .mapping entries =>
      match entries.find? fun (key, _) => (graph.node key).tag == .default with
      | some (_, value) => scalarText graph fuel value
      | none => .error (.reported .wrongNode)

/-- The value of a node that is no collection.  A moment is read from a scalar alone,
although a mapping with a default may be tagged as one. -/
def leafOf (graph : Graph) (id : NodeId) : Scalar.Outcome Leaf := do
  let node := graph.node id
  match scalarReader? node.tag with
  | none => .error (.reported .unknownTag)
  | some reader =>
    let text := (← scalarText graph (graph.size + 1) id).toList
    match node.tag, node.shape with
    | .timestamp, .mapping _ => Scalar.broken .wrongType
    | tag, _ =>
      let isShared := tag == .float && Scalar.isNoNumber text
      return { value := ← reader text, source := if isShared then none else some id }

/-- The object of a node as it is now; a collection that is met for the first time will be
filled later. -/
def object (id : NodeId) : BuildStep Object := do
  match (← get).objects[id]?.join with
  | some known => return known
  | none =>
    match emptyCollection? (← node id).tag with
    | some empty =>
      keep id empty
      modify fun building => { building with collections := building.collections.push id }
      return empty
    | none =>
      match leafOf (← get).graph id with
      | .ok leaf =>
        keep id (.leaf leaf)
        return .leaf leaf
      | .error cause => throw cause

/-- Meets a node, whatever its object. -/
def meet (id : NodeId) : BuildStep Unit := do
  let _ ← object id

/-- The key that a node stands for; a collection is none. -/
def key (id : NodeId) : BuildStep Leaf := do
  match ← object id with
  | .leaf leaf => return leaf
  | _ => fail .unusableKey

/-- Carries out the merges of a mapping. -/
def merge (id : NodeId) : BuildStep Unit := do
  match (Graph.merge id).run (← get).graph with
  | .ok ((), graph) => modify fun building => { building with graph := graph }
  | .error fault => fail fault

/-- The entries of a node that has to be a mapping, after its merges. -/
def entries (id : NodeId) : BuildStep (List (Leaf × NodeId)) := do
  match (← node id).shape with
  | .mapping _ =>
    merge id
    (← node id).entries.mapM fun (keyNode, value) => do
      let key ← key keyNode
      meet value
      return (key, value)
  | _ => fail .wrongNode

/-- The items of a node that has to be a sequence. -/
def items (id : NodeId) : BuildStep (List NodeId) := do
  match (← node id).shape with
  | .sequence items => return items
  | _ => fail .wrongNode

/-- The single entry of a node that has to be a mapping with one. -/
def pair (id : NodeId) : BuildStep (NodeId × NodeId) := do
  match (← node id).entries with
  | [(first, second)] =>
    meet first
    meet second
    return (first, second)
  | _ => fail .wrongNode

/-- Fills the collection of a node. -/
def fill (id : NodeId) : BuildStep Unit := do
  match ← object id with
  | .leaf _ => pure ()
  | .list _ => do
    let items ← items id
    items.forM meet
    keep id (.list items)
  | .map _ => do
    keep id (.map (Object.entriesOf (← entries id)))
  | .set _ => do
    keep id (.set ((Object.entriesOf (← entries id)).map Prod.fst))
  | .pairs _ => do
    keep id (.pairs (← (← items id).mapM pair))

/-- Fills the collections from the one at a place in the order on.  Every node is met as a
collection at most once. -/
def fillFrom : Nat → Nat → BuildStep Unit
  | 0, _ => pure ()
  | fuel + 1, place => do
    match (← get).collections[place]? with
    | none => pure ()
    | some id =>
      fill id
      fillFrom fuel (place + 1)

/-- The objects of a document. -/
def ofDocument (document : RootedGraph) : Except (Interruption Fault) (Array Object) := do
  let size := document.graph.size
  let start : Building :=
    { graph := document.graph, objects := Array.replicate size none }
  let build : BuildStep Unit := do
    meet document.root
    fillFrom (size + 1) 0
  let ((), finished) ← build.run start
  return finished.objects.map fun object =>
    object.getD (.leaf { value := .null, source := none })

end Building
end Yaml
end ProtocolTypes
