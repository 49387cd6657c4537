import ProtocolTypes.Yaml.Fault
import ProtocolTypes.Yaml.Node

/-!
# Merged entries

A mapping may take over the entries of others, which are named under merge keys.  They
come to stand in front of its own, of several others under one key the last one's first.
The change stays: whoever meets the mapping again finds no merge keys in it.
-/

namespace ProtocolTypes
namespace Yaml

/-- A change of a document that may fail. -/
abbrev GraphStep := StateT Graph (Except Fault)

namespace Graph

/-- Whether an entry stands for the merge of other mappings. -/
def isMerge (graph : Graph) (entry : NodeId × NodeId) : Bool :=
  (graph.node entry.1).tag == .merge

/-- The number of merge keys in all mappings, which bounds the recursion of a merge; a
mapping without any needs none. -/
def mergeBound (graph : Graph) (id : NodeId) : Nat :=
  if (graph.node id).entries.any graph.isMerge then
    graph.nodes.toList.foldl (fun total node => total + node.entries.countP graph.isMerge) 0
  else 0

/-- Makes a key that says the default a text like any other. -/
def settleKey (key : NodeId) (graph : Graph) : Graph :=
  if (graph.node key).tag == .default then graph.setTag key .str else graph

/-- Puts the entries that are merged into a mapping in front of its own, from the place of
an own entry on, where `merged` are those found before.  Every recursion takes place in a
document with a merge key less. -/
def mergeFrom : Nat → NodeId → Nat → List (NodeId × NodeId) → GraphStep Unit
  | 0, _, _, _ => pure ()
  | fuel + 1, id, place, merged => do
    let graph ← get
    let entries := (graph.node id).entries
    let plain := (entries.drop place).takeWhile fun entry => !graph.isMerge entry
    modify fun graph => plain.foldl (fun graph (key, _) => graph.settleKey key) graph
    let reached := place + plain.length
    match entries.drop reached with
    | [] => if !merged.isEmpty then modify (setEntries id (merged ++ entries))
    | (_, source) :: later =>
      modify (setEntries id (entries.take reached ++ later))
      let found ←
        match (graph.node source).shape with
        | .mapping _ => do
          mergeFrom fuel source 0 []
          pure ((← get).node source).entries
        | .sequence items => do
          let found ← items.mapM fun item => do
            match (graph.node item).shape with
            | .mapping _ =>
              mergeFrom fuel item 0 []
              pure ((← get).node item).entries
            | _ => throw .badMerge
          pure found.reverse.flatten
        | .scalar _ => throw .badMerge
      mergeFrom fuel id reached (merged ++ found)

/-- Carries out the merges of a mapping. -/
def merge (id : NodeId) : GraphStep Unit := do
  mergeFrom ((← get).mergeBound id + 1) id 0 []

end Graph
end Yaml
end ProtocolTypes
