import LinkedQuery.Yaml.Node.Merge
import LinkedQuery.Yaml.Schema

/-!
Contract: what the nodes of a YAML document hold once they are built.

Owns:
- the parts of collections by node, each collection being filled once;
- scalars, which a mapping gives by its default value;
- keys, which are scalars, the last of equal keys giving the value;
- the order of the work and so of faults: collections are filled level by level.

Does not own: the values of scalars, and data as a tree.
-/

namespace LinkedQuery.Yaml

/-- What a collection holds. -/
inductive Parts
  | list (items : List NodeId)
  | map (entries : List (Scalar × NodeId))
  | set (members : List Scalar)
  | pairs (pairs : List (NodeId × NodeId))
deriving Repr

/-- How far the work on a node is. -/
inductive Progress
  | untouched
  | scalar (value : Scalar)
  /-- A collection that has no content yet. -/
  | waiting
  | filled (parts : Parts)
deriving Repr

/-- The work on a document: its nodes, how far each of them is, and the
collections that wait for their content in the order of their turn. -/
structure Building where
  graph : Graph
  progress : Array Progress
  queue : List NodeId
deriving Repr

namespace Building

/-- The start of the work. -/
def ofGraph (graph : Graph) : Building :=
  ⟨graph, Array.replicate graph.size .untouched, []⟩

/-- How far the work on a node is. -/
def progressOf (building : Building) (id : NodeId) : Progress :=
  building.progress.getD id .untouched

/-- The work with a node brought forward. -/
def advance (building : Building) (id : NodeId) (reached : Progress) : Building :=
  { building with progress := building.progress.setIfInBounds id reached }

/-- The work with one more collection that waits. -/
def enqueue (building : Building) (id : NodeId) : Building :=
  { building.advance id .waiting with queue := building.queue ++ [id] }

/-- The work with the first collection of the queue filled. -/
def fill (building : Building) (id : NodeId) (parts : Parts) : Building :=
  { building.advance id (.filled parts) with queue := building.queue.drop 1 }

end Building

namespace Tag

/-- Whether nodes with a tag are collections, whatever they hold. -/
def isCollection : Tag → Bool
  | .sequence => true
  | .mapping => true
  | .set => true
  | .pairs => true
  | _ => false

/-- Whether a value is built for scalars with a tag. -/
def isScalar : Tag → Bool
  | .null => true
  | .truth => true
  | .integer => true
  | .decimal => true
  | .text => true
  | .timestamp => true
  | .binary => true
  | _ => false

end Tag

namespace Graph

/-- The text of a node that is wanted as a scalar: a mapping gives its default
value.  Each step leads to another node unless default values go in a circle,
and the first argument bounds the steps. -/
def scalarText (graph : Graph) : Nat → NodeId → Except Fault Text
  | 0, _ => .error (.scalar .endless)
  | steps + 1, id =>
      match (graph.node id).body with
      | .scalar text => .ok text
      | .sequence _ => .error .malformed
      | .mapping entries =>
          match entries.find? fun (key, _) => graph.tag key = .default with
          | some (_, value) => scalarText graph steps value
          | none => .error .malformed

/-- The scalar of a node under its tag; a timestamp has to be written out. -/
def scalar (graph : Graph) (id : NodeId) : Except Fault Scalar := do
  let node := graph.node id
  if !node.tag.isScalar then
    throw .malformed
  let text ← graph.scalarText (graph.size + 1) id
  match node.tag, node.body with
  | .timestamp, .mapping _ => throw (.scalar .timestampOfMapping)
  | tag, _ => scalarOf id tag text

end Graph

/-- A step of the work. -/
abbrev Build := StateT Building (Except Fault)

namespace Build

/-- Begin a node: a scalar is built at once, a collection waits. -/
def begin (id : NodeId) : Build (Option Scalar) := do
  let building ← get
  match building.progressOf id with
  | .scalar scalar => return some scalar
  | .waiting => return none
  | .filled _ => return none
  | .untouched =>
      if (building.graph.tag id).isCollection then
        set (building.enqueue id)
        return none
      else
        let scalar ← liftM (building.graph.scalar id)
        set (building.advance id (.scalar scalar))
        return some scalar

/-- The entries after a write: a key that is there keeps its place and its
spelling and takes the new value, another key goes to the end. -/
def putEntry (key : Scalar) (value : NodeId) :
    List (Scalar × NodeId) → List (Scalar × NodeId)
  | [] => [(key, value)]
  | (other, old) :: rest =>
      if other.key = key.key then
        (other, value) :: rest
      else
        (other, old) :: putEntry key value rest

/-- Write entries one after the other behind those of a mapping. -/
def fillEntries (mapping : List (Scalar × NodeId)) :
    List NodeEntry → Build (List (Scalar × NodeId))
  | [] => return mapping
  | (key, value) :: rest => do
      match ← begin key with
      | none => throw .malformed
      | some scalar =>
          let _ ← begin value
          fillEntries (putEntry scalar value mapping) rest

/-- The entries of a mapping, merged ones first. -/
def mappingEntries (id : NodeId) : Build (List (Scalar × NodeId)) := do
  let building ← get
  match (building.graph.node id).body with
  | .mapping _ =>
      let graph ← liftM (building.graph.merge id)
      set { building with graph := graph }
      fillEntries [] (graph.entries id)
  | _ => throw .malformed

/-- The items of a sequence. -/
def sequenceItems (id : NodeId) : Build (List NodeId) := do
  match ((← get).graph.node id).body with
  | .sequence items => return items
  | _ => throw .malformed

/-- The pairs that mappings of one entry are. -/
def fillPairs : List NodeId → Build (List (NodeId × NodeId))
  | [] => return []
  | item :: rest => do
      match ((← get).graph.node item).body with
      | .mapping [(key, value)] =>
          let _ ← begin key
          let _ ← begin value
          return (key, value) :: (← fillPairs rest)
      | _ => throw .malformed

/-- The parts of a collection. -/
def parts (id : NodeId) : Build Parts := do
  match (← get).graph.tag id with
  | .sequence =>
      let items ← sequenceItems id
      for item in items do
        let _ ← begin item
      return .list items
  | .mapping => return .map (← mappingEntries id)
  | .set => return .set ((← mappingEntries id).map Prod.fst)
  | .pairs => return .pairs (← fillPairs (← sequenceItems id))
  | _ => throw .malformed

/-- Fill the collections that wait, and those that come to wait meanwhile.  Each
collection waits once, and the first argument bounds the steps. -/
def fillAll : Nat → Build Unit
  | 0 => return ()
  | steps + 1 => do
      match (← get).queue with
      | [] => return ()
      | id :: _ =>
          let found ← parts id
          modify fun building => building.fill id found
          fillAll steps

end Build

/-- All that is built for a document from its root on. -/
def Building.ofRoot (graph : Graph) (root : NodeId) : Except Fault Building := do
  let work : Build Unit := do
    let _ ← Build.begin root
    Build.fillAll graph.size
  let (_, building) ← work.run (.ofGraph graph)
  return building

end LinkedQuery.Yaml
