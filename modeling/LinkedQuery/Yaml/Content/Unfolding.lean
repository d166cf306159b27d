import LinkedQuery.Yaml.Content

/-!
Contract: the data of a YAML document as a tree.

Owns:
- the value of each node, the same at all places where the node stands;
- where data without end is cut: a collection inside itself is written out a few
  times, and inside a pair, which is shown as it stands, not even twice.

Does not own: what reads the data.
-/

namespace LinkedQuery.Yaml

/-- The collections around a place: how often one of them may be open, the
collections that are, and the pairs among them by their sequence and position.
Inside a pair only what is open inside it counts. -/
structure Opened where
  limit : Nat
  collections : List NodeId
  pairs : List (NodeId × Nat)
deriving Repr

namespace Opened

/-- How often a collection is written out inside itself.  Whoever follows the
rules of a document looks at no collection in more ways than that before going
round in a circle. -/
def rounds : Nat := 4

/-- Nothing is open at the root. -/
def none : Opened :=
  ⟨rounds, [], []⟩

/-- Whether a collection is not written out again. -/
def isFull (opened : Opened) (id : NodeId) : Bool :=
  decide (opened.limit ≤ opened.collections.count id)

/-- The places inside a collection. -/
def enter (opened : Opened) (id : NodeId) : Opened :=
  { opened with collections := id :: opened.collections }

/-- The places inside a pair: the outermost one starts anew. -/
def enterPair (opened : Opened) (pair : NodeId × Nat) : Opened :=
  if opened.pairs.isEmpty then
    ⟨1, [], [pair]⟩
  else
    { opened with pairs := pair :: opened.pairs }

end Opened

/-- A value, and whether it is complete: nothing in it is cut. -/
structure Unfolded where
  value : Value
  isComplete : Bool

/-- The complete values by node.  Such a value is the same at every place, so it
is written out once. -/
abbrev Known := List (NodeId × Value)

namespace Unfolded

/-- A value that is all there. -/
def whole (value : Value) : Unfolded :=
  ⟨value, true⟩

/-- The mark of a collection inside itself. -/
def cut (shape : Shape) : Unfolded :=
  ⟨.again shape, false⟩

/-- A list of values. -/
def list (items : List Unfolded) : Unfolded :=
  ⟨.list (items.map Unfolded.value), items.all Unfolded.isComplete⟩

/-- A mapping of keys to values. -/
def map (keys : List Scalar) (items : List Unfolded) : Unfolded :=
  ⟨.map (keys.zip (items.map Unfolded.value)), items.all Unfolded.isComplete⟩

/-- A pair of values. -/
def pair (first second : Unfolded) : Unfolded :=
  ⟨.pair first.value second.value, first.isComplete && second.isComplete⟩

end Unfolded

namespace Building

/-- The value of a collection, given how the values of nodes are found. -/
def unfoldParts
    (find : Opened → NodeId → StateM Known Unfolded)
    (opened : Opened)
    (id : NodeId) :
    Parts → StateM Known Unfolded
  | .set members => return .whole (.set members)
  | .list items => do
      if opened.isFull id then
        return .cut .list
      return .list (← items.mapM (find (opened.enter id)))
  | .map entries => do
      if opened.isFull id then
        return .cut .map
      return .map (entries.map Prod.fst)
        (← (entries.map Prod.snd).mapM (find (opened.enter id)))
  | .pairs pairs => do
      if opened.isFull id then
        return .cut .list
      return .list (← pairs.zipIdx.mapM fun ((first, second), position) => do
        if opened.pairs.contains (id, position) then
          return .cut .pair
        let inside := (opened.enter id).enterPair (id, position)
        return .pair (← find inside first) (← find inside second))

/-- The value of a node.  Each step enters a collection, which happens a bounded
number of times, and the first argument bounds the steps. -/
def unfold (building : Building) : Nat → Opened → NodeId → StateM Known Unfolded
  | 0, _, _ => return .whole (.scalar .null)
  | steps + 1, opened, id => do
      match building.progressOf id with
      | .untouched => return .whole (.scalar .null)
      | .waiting => return .whole (.scalar .null)
      | .scalar scalar => return .whole (.scalar scalar)
      | .filled parts =>
          match (← get).lookup id with
          | some value => return .whole value
          | none =>
              let found ← unfoldParts (unfold building steps) opened id parts
              if found.isComplete then
                modify fun known => (id, found.value) :: known
              return found

end Building

/-- The data of a document. -/
def contentOf (graph : Graph) (root : NodeId) : Except Fault Value := do
  let building ← Building.ofRoot graph root
  let (found, _) := (building.unfold (8 * graph.size + 8) .none root).run []
  return found.value

end LinkedQuery.Yaml
