import LinkedQuery.Text

/-!
Contract: the place of a value inside a document.

Owns:
- the path from a named start through keys and positions;
- its text with dots and square brackets.

Does not own: the faults found there.
-/

namespace LinkedQuery

/-- One step into a mapping or a list. -/
inductive KeyStep
  | key (name : Text)
  | index (position : Nat)
deriving Repr, DecidableEq

/-- The text of a step. -/
def KeyStep.text : KeyStep → Text
  | .key name => "." ++ name
  | .index position => "[" ++ toString position ++ "]"

/-- A place: the name of the start and the steps from there. -/
structure KeyPath where
  start : Text
  steps : List KeyStep
deriving Repr, DecidableEq

namespace KeyPath

/-- The place of the start itself. -/
def ofStart (start : Text) : KeyPath :=
  ⟨start, []⟩

/-- One step further. -/
def step (path : KeyPath) (next : KeyStep) : KeyPath :=
  ⟨path.start, path.steps ++ [next]⟩

/-- The place under a key. -/
def key (path : KeyPath) (name : Text) : KeyPath :=
  path.step (.key name)

/-- The place at a position. -/
def index (path : KeyPath) (position : Nat) : KeyPath :=
  path.step (.index position)

/-- The text of a place. -/
def text (path : KeyPath) : Text :=
  path.steps.foldl (fun text step => text ++ step.text) path.start

end KeyPath

end LinkedQuery
