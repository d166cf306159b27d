import LinkedQuery.Yaml.Fault
import LinkedQuery.Yaml.Node

/-!
Contract: merge keys of YAML mappings.

Owns:
- the entries that a merge key stands for: those of a mapping, or those of the
  mappings of a sequence, the last one first;
- their place in front of a mapping's own entries;
- the mark of the default value, which is a plain text in a mapping of data;
- merging through references, a mapping inside itself included.

Does not own: equal keys, which stay side by side.
-/

namespace LinkedQuery.Yaml

/-- A key and its value in a mapping. -/
abbrev NodeEntry := NodeId × NodeId

namespace Graph

/-- The number of entries under merge keys. -/
def mergeCount (graph : Graph) : Nat :=
  graph.nodes.toList.foldl
    (fun count node =>
      match node.body with
      | .mapping entries => count + entries.countP fun (key, _) => graph.tag key = .merge
      | _ => count) 0

/-- The value of the first merge key among entries, and the entries without
it. -/
def takeMerge? (graph : Graph) : List NodeEntry → Option (NodeId × List NodeEntry)
  | [] => none
  | (key, value) :: rest =>
      if graph.tag key = .merge then
        some (value, rest)
      else
        (takeMerge? graph rest).map fun (source, others) => (source, (key, value) :: others)

/-- Turn the marks of default values among keys into texts. -/
def retagDefaults (graph : Graph) (entries : List NodeEntry) : Graph :=
  entries.foldl
    (fun graph (key, _) => if graph.tag key = .default then graph.retag key .text else graph)
    graph

/-- A mapping without merge keys after some merged entries. -/
def closeMerge (id : NodeId) (merged : List NodeEntry) (graph : Graph) : Graph :=
  let entries := graph.entries id
  let graph := graph.retagDefaults entries
  if merged.isEmpty then graph else graph.refill id (.mapping (merged ++ entries))

/-- The entries that the mappings of a merged sequence contribute, the last one
first, given how a mapping is merged itself. -/
def mergeItems (settle : NodeId → Graph → Except Fault Graph) :
    List NodeId → Graph → Except Fault (List NodeEntry × Graph)
  | [], graph => .ok ([], graph)
  | item :: rest, graph =>
      match (graph.node item).body with
      | .mapping _ => do
          let graph ← settle item graph
          let own := graph.entries item
          let (others, graph) ← mergeItems settle rest graph
          return (others ++ own, graph)
      | _ => .error .malformed

/-- The entries that a node contributes where it is merged. -/
def mergeSource (settle : NodeId → Graph → Except Fault Graph) (source : NodeId) (graph : Graph) :
    Except Fault (List NodeEntry × Graph) :=
  match (graph.node source).body with
  | .mapping _ => do
      let graph ← settle source graph
      return (graph.entries source, graph)
  | .sequence items => mergeItems settle items graph
  | .scalar _ => .error .malformed

/-- Carry out the merge keys of a mapping, after some merged entries.  Each step
takes a merge key away, and the first argument bounds the steps. -/
def mergeFrom : Nat → List NodeEntry → NodeId → Graph → Except Fault Graph
  | 0, merged, id, graph => .ok (closeMerge id merged graph)
  | steps + 1, merged, id, graph =>
      match graph.takeMerge? (graph.entries id) with
      | none => .ok (closeMerge id merged graph)
      | some (source, left) => do
          let graph := graph.refill id (.mapping left)
          let (found, graph) ← mergeSource (mergeFrom steps []) source graph
          mergeFrom steps (merged ++ found) id graph

/-- Carry out the merge keys of a mapping, most mappings having none. -/
def merge (graph : Graph) (id : NodeId) : Except Fault Graph :=
  match graph.takeMerge? (graph.entries id) with
  | none => .ok (closeMerge id [] graph)
  | some _ => mergeFrom graph.mergeCount [] id graph

end Graph

end LinkedQuery.Yaml
