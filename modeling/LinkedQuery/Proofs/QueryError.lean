import LinkedQuery.QueryError

/-!
Contract: what a caller can tell of the errors of queries.

Owns:
- the errors that lie in a query, and their texts where they cannot be written;
- the kinds of errors that a caller can tell apart.

Does not own: which query has which error.
-/

namespace LinkedQuery

namespace QueryError

/-- Whether an error lies in the query, and not in a collaborator. -/
def isOfQuery : QueryError → Bool
  | .unsupportedExpr _ => true
  | .unsupportedTerm _ => true
  | .unsupportedMember _ => true
  | .unsupportedPhrase _ => true
  | .unsupportedOperator _ => true
  | .termMismatch _ _ => true
  | .pathNotFound _ _ => true
  | .ambiguousPath _ => true
  | .lookupFailed _ _ => false
  | .refused _ => false
  | .general _ => false

theorem message_of_isOverlong
    {error : QueryError}
    (overlong : error.isOverlong = true) :
    error.message = OverlongInteger.written.message :=
  if_pos overlong

/-- An overlong error of the query does not show its wording: the two texts differ
from the first character on. -/
theorem message_ne_wording
    {error : QueryError}
    (ofQuery : error.isOfQuery = true)
    (overlong : error.isOverlong = true) :
    error.message ≠ error.wording := by
  rw [message_of_isOverlong overlong]
  intro same
  have firsts := congrArg (fun text => text.toList.head?) same
  cases error with
  | unsupportedExpr | unsupportedTerm | unsupportedMember | unsupportedPhrase
  | unsupportedOperator | termMismatch | pathNotFound | ambiguousPath => cases firsts
  | lookupFailed | refused | general => cases ofQuery

end QueryError

/-! ## Kinds -/

/-- The kinds of errors that a caller can tell apart. -/
inductive ErrorKind
  | unsupported
  | mismatch
  | unreachable
  | ambiguous
  | collaborator
  | refused
  | general
  | unwritable
deriving Repr, DecidableEq

/-- The kind of an error. An error whose wording cannot be written is met as the
failure to write it. -/
def QueryError.kind (error : QueryError) : ErrorKind :=
  if error.isOverlong then .unwritable
  else
    match error with
    | .unsupportedExpr _ => .unsupported
    | .unsupportedTerm _ => .unsupported
    | .unsupportedMember _ => .unsupported
    | .unsupportedPhrase _ => .unsupported
    | .unsupportedOperator _ => .unsupported
    | .termMismatch _ _ => .mismatch
    | .pathNotFound _ _ => .unreachable
    | .ambiguousPath _ => .ambiguous
    | .lookupFailed _ _ => .collaborator
    | .refused _ => .refused
    | .general _ => .general

theorem QueryError.kind_ambiguousPath_congr
    {group other : Expr}
    (sameLength : group.isOverlong = other.isOverlong) :
    (QueryError.ambiguousPath group).kind = (QueryError.ambiguousPath other).kind := by
  have sameWriting :
      (QueryError.ambiguousPath group).isOverlong = (QueryError.ambiguousPath other).isOverlong :=
    sameLength
  unfold kind
  rw [sameWriting]

end LinkedQuery
