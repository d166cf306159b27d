import LinkedQuery.Yaml.Cursor
import LinkedQuery.Yaml.Fault
import LinkedQuery.Yaml.Token

/-!
Contract: the layout of YAML text while its tokens are found.

Owns:
- the indentation of open block collections and the depth of flow collections;
- the tokens that may turn out to be keys, which only a later colon shows;
- the tokens found so far, and the keys among them that are put in at the end.

Does not own: the form of single tokens.
-/

namespace LinkedQuery.Yaml

/-- A token that may turn out to be a key. -/
structure Candidate where
  /-- The number of tokens before it. -/
  position : Nat
  /-- Whether nothing else but a key may stand there. -/
  isRequired : Bool
  index : Nat
  line : Nat
  column : Nat
deriving Repr

/-- A key that a colon has shown: the number of tokens before it, and whether
it opens a block mapping. -/
structure KeyStart where
  position : Nat
  opensMapping : Bool
deriving Repr

/-- The state of the search for tokens. -/
structure Layout where
  cursor : Cursor
  flowLevel : Nat
  indent : Int
  outerIndents : List Int
  mayStartKey : Bool
  /-- At most one candidate per depth of flow collections. -/
  candidates : List (Nat × Candidate)
  /-- The tokens, the latest one first. -/
  found : List Token
  count : Nat
  keys : List KeyStart
deriving Repr

namespace Layout

/-- The state at the start of a text. -/
def ofText (chars : List Char) : Layout where
  cursor := .ofText chars
  flowLevel := 0
  indent := -1
  outerIndents := []
  mayStartKey := true
  candidates := []
  found := []
  count := 0
  keys := []

/-- Whether a flow collection is open. -/
def inFlow (layout : Layout) : Bool :=
  layout.flowLevel != 0

/-- Add a token. -/
def emit (token : Token) (layout : Layout) : Layout :=
  { layout with found := token :: layout.found, count := layout.count + 1 }

/-- Add a token after whose text a given remainder starts. -/
def emitUpTo (token : Token) (rest : List Char) (layout : Layout) : Layout :=
  { layout.emit token with cursor := layout.cursor.moveTo rest }

/-- Whether a candidate can no longer be a key: a key stands on one line and is
short. -/
def isStale (layout : Layout) (candidate : Candidate) : Bool :=
  candidate.line != layout.cursor.line || layout.cursor.index - candidate.index > 1024

/-- Drop the candidates that can no longer be keys; a required one must not be
among them. -/
def dropStale (layout : Layout) : Except Fault Layout :=
  if layout.candidates.any fun (_, candidate) =>
      layout.isStale candidate && candidate.isRequired then
    .error .malformed
  else
    .ok { layout with
      candidates := layout.candidates.filter fun (_, candidate) => !layout.isStale candidate }

/-- The candidate at the present depth. -/
def candidate? (layout : Layout) : Option Candidate :=
  layout.candidates.lookup layout.flowLevel

/-- Forget the candidate at the present depth. -/
def forgetCandidate (layout : Layout) : Layout :=
  { layout with
    candidates := layout.candidates.filter fun (level, _) => level != layout.flowLevel }

/-- Give up the candidate at the present depth, which must not be required. -/
def giveUpCandidate (layout : Layout) : Except Fault Layout :=
  if layout.candidate?.any Candidate.isRequired then
    .error .malformed
  else
    .ok layout.forgetCandidate

/-- Note that the next token may be a key, where one may start. -/
def noteCandidate (layout : Layout) : Except Fault Layout :=
  if layout.mayStartKey then do
    let isRequired := !layout.inFlow && layout.indent == (layout.cursor.column : Int)
    let layout ← layout.giveUpCandidate
    let candidate : Candidate :=
      ⟨layout.count, isRequired, layout.cursor.index, layout.cursor.line, layout.cursor.column⟩
    return { layout with candidates := (layout.flowLevel, candidate) :: layout.candidates }
  else
    .ok layout

/-- Close the block collections that are indented more than a column. -/
def closeBlocks (column : Int) : List Int → Layout → Layout
  | [], layout => layout
  | outer :: rest, layout =>
      if layout.indent > column then
        closeBlocks column rest
          { layout.emit .blockEnd with indent := outer, outerIndents := rest }
      else
        layout

/-- Close the block collections that a token at a column does not belong to;
inside flow collections indentation has no meaning. -/
def unwind (column : Int) (layout : Layout) : Layout :=
  if layout.inFlow then layout else closeBlocks column layout.outerIndents layout

/-- Open a block collection at a column, unless one is open there. -/
def indentTo (column : Nat) (layout : Layout) : Option Layout :=
  if layout.indent < (column : Int) then
    some { layout with
      indent := (column : Int), outerIndents := layout.indent :: layout.outerIndents }
  else
    none

/-- Open a block collection at the present column with its token, unless one is
open there. -/
def openBlock (start : Token) (layout : Layout) : Layout :=
  match layout.indentTo layout.cursor.column with
  | some layout => layout.emit start
  | none => layout

/-- Put the keys and the starts of their mappings in front of the tokens that
they turned out to be. -/
def spliceKeys (keys : List KeyStart) : Nat → List Token → List Token
  | _, [] => []
  | position, token :: rest =>
      let before : List Token :=
        match keys.find? fun key => key.position == position with
        | some key => if key.opensMapping then [.blockMappingStart, .key] else [.key]
        | none => []
      before ++ token :: spliceKeys keys (position + 1) rest

/-- All tokens in order. -/
def tokens (layout : Layout) : List Token :=
  spliceKeys layout.keys 0 layout.found.reverse

/-- The number of tokens that no later colon can change: those before the first
candidate. -/
def settledCount (layout : Layout) : Nat :=
  layout.candidates.foldl (fun least (_, candidate) => min least candidate.position)
    layout.count

/-- The tokens that no later colon can change. -/
def settledTokens (layout : Layout) : List Token :=
  spliceKeys layout.keys 0 (layout.found.reverse.take layout.settledCount)

end Layout

end LinkedQuery.Yaml
