import LinkedQuery.Expr

/-!
Contract: why a query is not compiled.

Owns:
- the faults of queries and of the look-ups they need, with their wording;
- the refusal of a collaborator: a fault of its own, or a query error that it
  raises itself.

Does not own: where each fault is found.
-/

namespace LinkedQuery

/-- A fault inside a collaborator. -/
inductive LookupFault
  | missing (text : Text)
  | invalid (text : Text)
  | runtime (text : Text)
  | other (name text : Text)
deriving Repr, DecidableEq

/-- The wording of a fault; a missing key is shown as a literal. -/
def LookupFault.message : LookupFault → Text
  | .missing text => Text.literal text
  | .invalid text => text
  | .runtime text => text
  | .other _ text => text

/-- The collaborator that was asked. -/
inductive Stage
  | topology
  | catalog
  | visibility
deriving Repr, DecidableEq

/-- The name of a stage. -/
def Stage.name : Stage → Text
  | .topology => "topology"
  | .catalog => "catalog"
  | .visibility => "visibility"

/-- Why a query is not compiled. -/
inductive QueryError
  /-- The expression has no counterpart. -/
  | unsupportedExpr (expr : Expr)
  /-- The term has no counterpart. -/
  | unsupportedTerm (term : Term)
  /-- The term has no counterpart as a member of an array. -/
  | unsupportedMember (term : Term)
  /-- The phrase has a wildcard other than one at its end. -/
  | unsupportedPhrase (term : Term)
  /-- The operator has no counterpart. -/
  | unsupportedOperator (operator : Operator)
  /-- The operator does not admit the term. -/
  | termMismatch (operator : Operator) (term : Term)
  /-- No chain of links leads to the target. -/
  | pathNotFound (root target : Entity)
  /-- The items of a group do not share one nested path. -/
  | ambiguousPath (group : Expr)
  /-- A collaborator failed. -/
  | lookupFailed (stage : Stage) (fault : LookupFault)
  /-- A collaborator refused to have the query compiled. -/
  | refused (text : Text)
  /-- A collaborator gave up for a reason of its own. -/
  | general (text : Text)

namespace QueryError

/-- The kind of construct that is not supported. -/
def construct? : QueryError → Option Text
  | .unsupportedExpr expr => some expr.kind
  | .unsupportedTerm term => some term.kind
  | .unsupportedMember term => some term.kind
  | .unsupportedPhrase term => some term.kind
  | .unsupportedOperator operator => some ("opcode " ++ operator.name)
  | .termMismatch _ term => some term.kind
  | _ => none

private def unsupported (construct detail : Text) : Text :=
  "Unsupported construct: " ++ construct ++ " (" ++ detail ++ ")"

/-- The wording of an error whose parts can all be written. -/
def wording : QueryError → Text
  | .unsupportedExpr expr => unsupported expr.kind ("unsupported expression: " ++ expr.text)
  | .unsupportedTerm term => unsupported term.kind ("unsupported term: " ++ term.text)
  | .unsupportedMember term =>
      unsupported term.kind ("unsupported term in an array: " ++ term.text)
  | .unsupportedPhrase term =>
      unsupported term.kind
        ("phrases with non-right-truncated wildcards are not supported: " ++ term.text)
  | .unsupportedOperator operator => "Unsupported construct: opcode " ++ operator.name
  | .termMismatch operator term =>
      unsupported term.kind
        ("invalid term type for opcode " ++ operator.name ++ ": " ++ term.text)
  | .pathNotFound root target =>
      "No index link path from " ++ root.text ++ " to " ++ target.text
  | .ambiguousPath group => "Could not determine nested path for: " ++ group.text
  | .lookupFailed stage fault => stage.name ++ " lookup failed: " ++ fault.message
  | .refused text => text
  | .general text => text

/-- Whether the wording shows a distance that is too long to be written. -/
def isOverlong : QueryError → Bool
  | .unsupportedExpr expr => expr.isOverlong
  | .unsupportedTerm term => term.isOverlong
  | .unsupportedMember term => term.isOverlong
  | .unsupportedPhrase term => term.isOverlong
  | .termMismatch _ term => term.isOverlong
  | .ambiguousPath group => group.isOverlong
  | _ => false

/-- The wording of an error; a distance that is too long takes the place of what
would show it. -/
def message (error : QueryError) : Text :=
  if error.isOverlong then OverlongInteger.written.message else error.wording

end QueryError

/-- How a collaborator refuses an answer. -/
inductive Refusal
  | fault (found : LookupFault)
  | error (raised : QueryError)

/-- The query error of a refusal: a fault is charged to the stage, an error
passes as it is. -/
def Refusal.charge (stage : Stage) : Refusal → QueryError
  | .fault found => .lookupFailed stage found
  | .error raised => raised

end LinkedQuery
