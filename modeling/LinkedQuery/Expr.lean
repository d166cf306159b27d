import LinkedQuery.Field
import LinkedQuery.Link
import LinkedQuery.Operator
import LinkedQuery.Term
import LinkedQuery.Text.Order

/-!
Contract: query expressions.

Owns:
- the kinds of expressions, a foreign node standing for one outside them that has
  nothing below it;
- their normalized text, their nodes in order and their equality;
- the fields they use and the nested path that expressions share.

Does not own: documents and compiled queries.
-/

namespace LinkedQuery

/-- A query expression. -/
inductive Expr
  | withAll (items : List Expr)
  | andAll (items : List Expr)
  | orAny (items : List Expr)
  | negation (child : Expr)
  | linked (link : Link) (child : Expr)
  | comparison (operator : Operator) (field : Field) (term : Term)
  /-- A node of another kind, without children: no nested path is found below it. -/
  | foreign (name : String)

namespace Expr

/-- The name of an expression's kind. -/
def kind : Expr → String
  | .withAll _ => "WithList"
  | .andAll _ => "AndList"
  | .orAny _ => "OrList"
  | .negation _ => "Not"
  | .linked _ _ => "Linked"
  | .comparison operator _ _ => operator.kind
  | .foreign name => name

/-- The expressions directly below. -/
def children : Expr → List Expr
  | .withAll items => items
  | .andAll items => items
  | .orAny items => items
  | .negation child => [child]
  | .linked _ child => [child]
  | .comparison _ _ _ => []
  | .foreign _ => []

mutual

/-- The normalized text of an expression. -/
def text : Expr → Text
  | .withAll items => "(" ++ Text.joinWith " WITH " (texts items) ++ ")"
  | .andAll items => "(" ++ Text.joinWith " AND " (texts items) ++ ")"
  | .orAny items => "(" ++ Text.joinWith " OR " (texts items) ++ ")"
  | .negation child => "NOT (" ++ text child ++ ")"
  | .linked link child => "#link<" ++ link.text ++ ">(" ++ text child ++ ")"
  | .comparison operator field term => field.name ++ operator.symbol ++ term.text
  | .foreign name => name ++ "()"

/-- The normalized texts of expressions. -/
def texts : List Expr → List Text
  | [] => []
  | expr :: rest => text expr :: texts rest

end

mutual

/-- An expression and everything below it, parents before children and
children from left to right. -/
def walk : Expr → List Expr
  | .withAll items => .withAll items :: walkAll items
  | .andAll items => .andAll items :: walkAll items
  | .orAny items => .orAny items :: walkAll items
  | .negation child => .negation child :: walk child
  | .linked link child => .linked link child :: walk child
  | .comparison operator field term => [.comparison operator field term]
  | .foreign name => [.foreign name]

/-- The nodes of expressions one after the other. -/
def walkAll : List Expr → List Expr
  | [] => []
  | expr :: rest => walk expr ++ walkAll rest

end

/-- Whether an expression compares with a term that is too long to be
written. -/
def isOverlong (expr : Expr) : Bool :=
  expr.walk.any fun node =>
    match node with
    | .comparison _ _ term => term.isOverlong
    | _ => false

/-- The normalized text of an expression, if all of it can be written. -/
def written (expr : Expr) : Except OverlongInteger Text :=
  if expr.isOverlong then .error .written else .ok expr.text

/-- The field that a comparison names. -/
def field? : Expr → Option Field
  | .comparison _ field _ => some field
  | _ => none

/-- The names of the fields in an expression, sorted and each once. -/
def usedFields (expr : Expr) : List Text :=
  Text.sortedDistinct (expr.walk.filterMap fun node => node.field?.map Field.name)

theorem walk_eq_cons (expr : Expr) : expr.walk = expr :: walkAll expr.children := by
  cases expr <;> simp [walk, walkAll, children]

theorem walkAll_append (front back : List Expr) :
    walkAll (front ++ back) = walkAll front ++ walkAll back := by
  induction front with
  | nil => rfl
  | cons expr rest inductionHypothesis =>
      rw [List.cons_append, walkAll, walkAll, inductionHypothesis, List.append_assoc]

/-- The paths that are known once one more is met, each once. -/
def notePath (known : List (Option Text)) (path : Option Text) : List (Option Text) :=
  if known.contains path then known else known ++ [path]

/-- The nested paths of comparisons, each once, found behind those that are known by
working off expressions in turn: what is below one of them waits at the end, and
links are not followed. -/
@[semireducible] def gatherPaths (known : List (Option Text)) : List Expr → List (Option Text)
  | [] => known
  | .linked _ _ :: waiting => gatherPaths known waiting
  | .comparison _ field _ :: waiting =>
      gatherPaths (notePath known field.nestedPath) waiting
  | expr :: waiting => gatherPaths known (waiting ++ expr.children)
termination_by waiting => (walkAll waiting).length
decreasing_by
  all_goals simp only [walkAll, walk_eq_cons, walkAll_append, List.length_append,
    List.length_cons]
  all_goals omega

/-- The one nested path that all comparisons of some expressions lie on. -/
def sharedPath (exprs : List Expr) : Option Text :=
  match gatherPaths [] exprs with
  | [path] => path
  | _ => none

mutual

/-- Whether two expressions are of one kind with equal parts. -/
def same : Expr → Expr → Bool
  | .withAll items, .withAll others => sameAll items others
  | .andAll items, .andAll others => sameAll items others
  | .orAny items, .orAny others => sameAll items others
  | .negation child, .negation other => same child other
  | .linked link child, .linked otherLink other => link == otherLink && same child other
  | .comparison operator field term, .comparison otherOperator otherField other =>
      operator == otherOperator && field == otherField && term.same other
  | .foreign name, .foreign other => name == other
  | _, _ => false

/-- Whether two lists of expressions are equal item by item. -/
def sameAll : List Expr → List Expr → Bool
  | [], [] => true
  | expr :: rest, other :: others => same expr other && sameAll rest others
  | _, _ => false

end

end Expr

end LinkedQuery
