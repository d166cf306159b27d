import LinkedQuery.Expr

/-!
Contract: what happens while queries are compiled and commands run.

Owns:
- the events with their severity and wording.

Does not own: where records go.
-/

namespace LinkedQuery

/-- How grave a record is; a greater number is graver. -/
inductive Severity
  | debug
  | info
  | error
deriving Repr, DecidableEq

/-- The number of a severity. -/
def Severity.level : Severity → Int
  | .debug => 10
  | .info => 20
  | .error => 40

/-- An event. -/
inductive Event
  /-- A catalog of so many indexes was built. -/
  | catalogLoaded (count : Nat)
  /-- Joins are compiled without filters. -/
  | visibilityIgnored
  /-- The links of an entity were found. -/
  | discovered (count : Nat) (source : Entity)
  /-- A path was found. -/
  | resolved (root target : Entity) (path : List Link)
  /-- A join was given its filter. -/
  | filterApplied (index : Text)
  /-- A hop became a subselect. -/
  | folded (hop : Link) (index : Text)
  /-- One of several query files is looked at. -/
  | compiling (position total : Nat) (file : Text)
  /-- A query is compiled against a root. -/
  | evaluating (root : Entity) (query : Expr)
  /-- The results of a source follow. -/
  | heading (source : Text)
  /-- A line of a result. -/
  | line (text : Text)
  /-- A file of results was written. -/
  | wrote (count : Nat) (file : Text)
  /-- A command failed. -/
  | failed (action reason : Text)

namespace Event

/-- The severity of an event. -/
def severity : Event → Severity
  | .catalogLoaded _ => .debug
  | .visibilityIgnored => .info
  | .discovered _ _ => .debug
  | .resolved _ _ _ => .debug
  | .filterApplied _ => .debug
  | .folded _ _ => .debug
  | .compiling _ _ _ => .debug
  | .evaluating _ _ => .debug
  | .heading _ => .info
  | .line _ => .info
  | .wrote _ _ => .info
  | .failed _ _ => .error

/-- The links of a path, or a word for the empty path. -/
def pathText : List Link → Text
  | [] => "(self)"
  | path => Text.joinWith " / " (path.map Link.text)

/-- The wording of an event. -/
def message : Event → Text
  | .catalogLoaded count => "Catalog loaded with " ++ toString count ++ " index(es)"
  | .visibilityIgnored => "Visibility filtering disabled by compiler.ignore_visibility"
  | .discovered count source =>
      "Discovered " ++ toString count ++ " link(s) from " ++ source.text
  | .resolved root target path =>
      "Resolved path " ++ root.text ++ " -> " ++ target.text ++ ": " ++ pathText path
  | .filterApplied index => "Applying visibility filter for " ++ index
  | .folded hop index => "Folded hop " ++ hop.text ++ " into subselect on " ++ index
  | .compiling position total file =>
      "Compiling query " ++ toString position ++ "/" ++ toString total ++ ": " ++ file
  | .evaluating root query => "root=" ++ root.text ++ " query=" ++ query.text
  | .heading source => "=== " ++ source ++ " ==="
  | .line text => text
  | .wrote count file => "Wrote " ++ toString count ++ " result(s) to " ++ file
  | .failed action reason => action ++ " failed: " ++ reason

end Event

end LinkedQuery
