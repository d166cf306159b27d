import LinkedQuery.Yaml.Schema
import LinkedQuery.Yaml.Token

/-!
Contract: the document that a sequence of YAML tokens writes.

Owns:
- the grammar of block and flow collections, left-out nodes included;
- anchors and references, a collection being known to its own content;
- directives, tag handles and the rule that a text holds one document;
- which fault counts when tokens are cut off: one of the grammar, if it shows
  before the end of the tokens.

Does not own: the values of nodes.
-/

namespace LinkedQuery.Yaml

/-- The tokens that are left and what stands behind them, the nodes so far, and
those that have an anchor, the latest first. -/
structure Reading where
  tokens : List Token
  fault : Option ScalarFault
  graph : Graph
  anchors : List (String × NodeId)

/-- A part of the grammar. -/
abbrev Rule := StateT Reading (Except Fault)

namespace Rule

/-- The next token, if there is one; tokens that are cut off end with their
fault. -/
def next? : Rule (Option Token) := do
  let reading ← get
  match reading.tokens, reading.fault with
  | token :: _, _ => return some token
  | [], some fault => throw (.scalar fault)
  | [], none => return none

/-- Pass over a token. -/
def skip : Rule Unit :=
  modify fun reading => { reading with tokens := reading.tokens.drop 1 }

/-- Pass over the next token if it is a given one. -/
def accept (token : Token) : Rule Bool := do
  if (← next?) = some token then
    skip
    return true
  else
    return false

/-- Pass over a token that has to come next. -/
def expect (token : Token) : Rule Unit := do
  if !(← accept token) then
    throw .malformed

/-- Whether one of some tokens comes next. -/
def isNext (tokens : List Token) : Rule Bool := do
  return (← next?).any tokens.contains

/-- The node with an anchor. -/
def resolve (name : String) : Rule NodeId := do
  match (← get).anchors.lookup name with
  | some id => return id
  | none => throw .malformed

/-- A new node with its anchor, if it has one. -/
def create (anchor : Option String) (node : Node) : Rule NodeId := do
  let reading ← get
  let (id, graph) := reading.graph.push node
  let named := anchor.toList.map fun name => (name, id)
  set { reading with graph := graph, anchors := named ++ reading.anchors }
  return id

/-- A node that is left out. -/
def leaveOut : Rule NodeId :=
  create none .empty

/-- A name that no node has yet. -/
def freshAnchor (name : String) : Rule Unit := do
  if ((← get).anchors.lookup name).isSome then
    throw .malformed

/-- The complete name of a tag. -/
def tagName (handles : List (String × String)) (written : WrittenTag) : Rule String := do
  match written.handle with
  | none => return written.suffix
  | some handle =>
      match handles.lookup handle with
      | some expansion => return expansion ++ written.suffix
      | none => throw .malformed

/-- The anchor and the tag in front of a node, in either order; the name of the
tag is looked at after both. -/
def properties (handles : List (String × String)) :
    Rule (Option String × Option String) := do
  match ← next? with
  | some (.anchor name) =>
      skip
      match ← next? with
      | some (.tag written) =>
          skip
          return (some name, some (← tagName handles written))
      | _ => return (some name, none)
  | some (.tag written) =>
      skip
      match ← next? with
      | some (.anchor name) =>
          skip
          return (some name, some (← tagName handles written))
      | _ => return (none, some (← tagName handles written))
  | _ => return (none, none)

/-- The tag of a scalar: without a tag quotes make it a text, and a lone
exclamation mark leaves it to the form. -/
def scalarTag (written : Option String) (text : Text) (isPlain : Bool) : Tag :=
  match written with
  | none => if isPlain then .ofPlain text else .text
  | some name => if name = "!" then .ofPlain text else .ofName name

/-- The tag of a collection that has a usual one. -/
def collectionTag (written : Option String) (usual : Tag) : Tag :=
  match written with
  | none => usual
  | some name => if name = "!" then usual else .ofName name

/-- Build a collection, which has its number while its content is read. -/
def collection (anchor : Option String) (tag : Tag) (empty : NodeBody) (content : Rule NodeBody) :
    Rule NodeId := do
  let id ← create anchor ⟨tag, empty⟩
  let body ← content
  modify fun reading => { reading with graph := reading.graph.refill id body }
  return id

/-- Where a node stands. -/
inductive Context
  /-- Inside a flow collection. -/
  | flow
  /-- An entry of a block sequence, or the document itself. -/
  | block
  /-- A key or a value of a block mapping, where the entries of a sequence need
  no indentation. -/
  | blockPair
deriving DecidableEq

mutual

/-- A node.  Each rule spends a step on each token that it passes, and one more
for a collection; the first number bounds the steps. -/
def node (handles : List (String × String)) : Nat → Context → Rule NodeId
  | 0, _ => throw .malformed
  | steps + 1, context => do
      if let some (.reference name) ← next? then
        skip
        return (← resolve name)
      let (anchor, written) ← properties handles
      let token ← next?
      if let some name := anchor then
        freshAnchor name
      let sequence (items : Rule (List NodeId)) : Rule NodeId :=
        collection anchor (collectionTag written .sequence) (.sequence [])
          (return .sequence (← items))
      let mapping (entries : Rule (List (NodeId × NodeId))) : Rule NodeId :=
        collection anchor (collectionTag written .mapping) (.mapping [])
          (return .mapping (← entries))
      match token, context with
      | some .blockEntry, .blockPair => sequence (looseItems handles steps)
      | some (.scalar text isPlain), _ =>
          skip
          create anchor ⟨scalarTag written text isPlain, .scalar text⟩
      | some .flowSequenceStart, _ =>
          skip
          sequence (flowItems handles steps true)
      | some .flowMappingStart, _ =>
          skip
          mapping (flowEntries handles steps true)
      | some .blockSequenceStart, .block => skip; sequence (blockItems handles steps)
      | some .blockSequenceStart, .blockPair => skip; sequence (blockItems handles steps)
      | some .blockMappingStart, .block => skip; mapping (blockEntries handles steps)
      | some .blockMappingStart, .blockPair => skip; mapping (blockEntries handles steps)
      | _, _ =>
          if anchor.isSome || written.isSome then
            create anchor ⟨scalarTag written "" true, .scalar ""⟩
          else
            throw .malformed

/-- The node of an entry, which is left out before some tokens. -/
def nodeUnless (handles : List (String × String)) :
    Nat → Context → List Token → Rule NodeId
  | 0, _, _ => throw .malformed
  | steps + 1, context, ends => do
      if ← isNext ends then
        leaveOut
      else
        node handles steps context

/-- The items of an indented block sequence. -/
def blockItems (handles : List (String × String)) : Nat → Rule (List NodeId)
  | 0 => throw .malformed
  | steps + 1 => do
      if ← accept .blockEntry then
        let item ← nodeUnless handles steps .block [.blockEntry, .blockEnd]
        return item :: (← blockItems handles steps)
      else
        expect .blockEnd
        return []

/-- The items of a block sequence without indentation of its own. -/
def looseItems (handles : List (String × String)) : Nat → Rule (List NodeId)
  | 0 => throw .malformed
  | steps + 1 => do
      if ← accept .blockEntry then
        let item ← nodeUnless handles steps .block [.blockEntry, .key, .value, .blockEnd]
        return item :: (← looseItems handles steps)
      else
        return []

/-- The value after a key, which may be left out together with its colon. -/
def valueAfterKey (handles : List (String × String)) :
    Nat → Context → List Token → Rule NodeId
  | 0, _, _ => throw .malformed
  | steps + 1, context, ends => do
      if ← accept .value then
        nodeUnless handles steps context ends
      else
        leaveOut

/-- The entries of a block mapping. -/
def blockEntries (handles : List (String × String)) : Nat → Rule (List (NodeId × NodeId))
  | 0 => throw .malformed
  | steps + 1 => do
      if ← accept .key then
        let key ← nodeUnless handles steps .blockPair [.key, .value, .blockEnd]
        let value ← valueAfterKey handles steps .blockPair [.key, .value, .blockEnd]
        return (key, value) :: (← blockEntries handles steps)
      else
        expect .blockEnd
        return []

/-- The items of a flow sequence; a key makes an item a mapping of one entry. -/
def flowItems (handles : List (String × String)) : Nat → Bool → Rule (List NodeId)
  | 0, _ => throw .malformed
  | steps + 1, isFirst => do
      if ← accept .flowSequenceEnd then
        return []
      if !isFirst then
        expect .flowEntry
      if ← accept .flowSequenceEnd then
        return []
      let ends : List Token := [.flowEntry, .flowSequenceEnd]
      let item ←
        if ← accept .key then do
          let key ← nodeUnless handles steps .flow (.value :: ends)
          let value ← valueAfterKey handles steps .flow ends
          create none ⟨.mapping, .mapping [(key, value)]⟩
        else
          node handles steps .flow
      return item :: (← flowItems handles steps false)

/-- The entries of a flow mapping; without a key mark an entry is a key
alone. -/
def flowEntries (handles : List (String × String)) :
    Nat → Bool → Rule (List (NodeId × NodeId))
  | 0, _ => throw .malformed
  | steps + 1, isFirst => do
      if ← accept .flowMappingEnd then
        return []
      if !isFirst then
        expect .flowEntry
      if ← accept .flowMappingEnd then
        return []
      let ends : List Token := [.flowEntry, .flowMappingEnd]
      let entry ←
        if ← accept .key then do
          let key ← nodeUnless handles steps .flow (.value :: ends)
          let value ← valueAfterKey handles steps .flow ends
          pure (key, value)
        else do
          let key ← node handles steps .flow
          pure (key, ← leaveOut)
      return entry :: (← flowEntries handles steps false)

end

/-- The tag handles that need no directive. -/
def usualHandles : List (String × String) :=
  [("!", "!"), ("!!", Tag.nameStart)]

/-- The tag handles after the directives that come next; at most one version,
which has to be known, and no handle twice. -/
def directives : Nat → Bool → List (String × String) → Rule (List (String × String))
  | 0, _, _ => throw .malformed
  | steps + 1, hasVersion, handles => do
      match ← next? with
      | some (.directive directive) =>
          skip
          match directive with
          | .version major =>
              if hasVersion || major ≠ 1 then
                throw .malformed
              directives steps true handles
          | .handle name expansion =>
              if (handles.lookup name).isSome then
                throw .malformed
              directives steps hasVersion ((name, expansion) :: handles)
          | .reserved => directives steps hasVersion handles
      | _ => return handles ++ usualHandles

/-- The ends of a document that stand in a row. -/
def skipDocumentEnds : Nat → Rule Unit
  | 0 => return ()
  | steps + 1 => do
      if ← accept .documentEnd then
        skipDocumentEnds steps

/-- Nothing after the document: a further one is malformed, and so is anything
else. -/
def nothingMore (steps : Nat) : Rule Unit := do
  skipDocumentEnds steps
  if (← next?).isSome then
    let _ ← directives steps false []
    expect .documentStart
    throw .malformed

/-- The only document, if there is one. -/
def document (steps : Nat) : Rule (Option NodeId) := do
  match ← next? with
  | none => return none
  | some first =>
      let isExplicit : Bool :=
        match first with
        | .directive _ => true
        | .documentStart => true
        | _ => false
      let root ←
        if isExplicit then do
          let handles ← directives steps false []
          expect .documentStart
          match ← next? with
          | none => leaveOut
          | some (.directive _) => leaveOut
          | some .documentStart => leaveOut
          | some .documentEnd => leaveOut
          | some _ => node handles steps .block
        else
          node usualHandles steps .block
      nothingMore steps
      return some root

end Rule

/-- A document: its nodes and the number of its root. -/
structure RootedGraph where
  graph : Graph
  root : NodeId
deriving Repr

/-- The only document that some tokens write; a text without a document has
none. -/
def RootedGraph.ofTokens? (stream : TokenStream) : Except Fault (Option RootedGraph) := do
  let start : Reading := ⟨stream.tokens, stream.fault, .empty, []⟩
  let (root, reading) ← (Rule.document (4 * stream.tokens.length + 4)).run start
  return root.map fun id => ⟨reading.graph, id⟩

end LinkedQuery.Yaml
