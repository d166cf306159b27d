import LinkedQuery.Text

/-!
Contract: the nodes of a YAML document.

Owns:
- the tags that values are built for, with their names;
- the node type: scalars, sequences and mappings;
- the nodes of a document by number, so that a node can stand at several places
  and even inside itself.

Does not own: which tag an unmarked scalar has.
-/

namespace LinkedQuery.Yaml

/-- What a node is meant to be. -/
inductive Tag
  | null
  | truth
  | integer
  | decimal
  | text
  | timestamp
  | binary
  | sequence
  | mapping
  | set
  /-- Pairs in order, under either of their two names. -/
  | pairs
  /-- The key under which other mappings are merged. -/
  | merge
  /-- The key of the default value. -/
  | default
  /-- A tag for which no value is built. -/
  | unknown
deriving Repr, DecidableEq

namespace Tag

/-- What the names of the tags of the language start with. -/
def nameStart : String := "tag:yaml.org,2002:"

/-- The tag with a complete name. -/
def ofName (name : String) : Tag :=
  if name = nameStart ++ "null" then
    .null
  else if name = nameStart ++ "bool" then
    .truth
  else if name = nameStart ++ "int" then
    .integer
  else if name = nameStart ++ "float" then
    .decimal
  else if name = nameStart ++ "str" then
    .text
  else if name = nameStart ++ "timestamp" then
    .timestamp
  else if name = nameStart ++ "binary" then
    .binary
  else if name = nameStart ++ "seq" then
    .sequence
  else if name = nameStart ++ "map" then
    .mapping
  else if name = nameStart ++ "set" then
    .set
  else if name = nameStart ++ "omap" || name = nameStart ++ "pairs" then
    .pairs
  else if name = nameStart ++ "merge" then
    .merge
  else if name = nameStart ++ "value" then
    .default
  else
    .unknown

end Tag

/-- The number of a node in its document. -/
abbrev NodeId := Nat

/-- What a node holds. -/
inductive NodeBody
  | scalar (text : Text)
  | sequence (items : List NodeId)
  | mapping (entries : List (NodeId × NodeId))
deriving Repr, DecidableEq

/-- A node. -/
structure Node where
  tag : Tag
  body : NodeBody
deriving Repr, DecidableEq

/-- What stands where a node is left out. -/
def Node.empty : Node :=
  ⟨.null, .scalar ""⟩

/-- The nodes of a document by number. -/
structure Graph where
  nodes : Array Node
deriving Repr

namespace Graph

/-- A document without nodes. -/
def empty : Graph :=
  ⟨#[]⟩

/-- The number of nodes. -/
def size (graph : Graph) : Nat :=
  graph.nodes.size

/-- The node with a number. -/
def node (graph : Graph) (id : NodeId) : Node :=
  graph.nodes.getD id .empty

/-- The tag of a node. -/
def tag (graph : Graph) (id : NodeId) : Tag :=
  (graph.node id).tag

/-- The document with one more node, and the number of that node. -/
def push (graph : Graph) (node : Node) : NodeId × Graph :=
  (graph.size, ⟨graph.nodes.push node⟩)

/-- The document with another node under a number. -/
def put (graph : Graph) (id : NodeId) (node : Node) : Graph :=
  ⟨graph.nodes.setIfInBounds id node⟩

/-- The document with another tag for a node. -/
def retag (graph : Graph) (id : NodeId) (tag : Tag) : Graph :=
  graph.put id { graph.node id with tag := tag }

/-- The document with other content for a node. -/
def refill (graph : Graph) (id : NodeId) (body : NodeBody) : Graph :=
  graph.put id { graph.node id with body := body }

/-- The entries of a mapping; any other node has none. -/
def entries (graph : Graph) (id : NodeId) : List (NodeId × NodeId) :=
  match (graph.node id).body with
  | .mapping entries => entries
  | _ => []

end Graph

end LinkedQuery.Yaml
