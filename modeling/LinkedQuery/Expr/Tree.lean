import LinkedQuery.Expr

/-!
Contract: views of a query for its author.

Owns:
- the indented tree, one node a line, the members of an array below it;
- the description with the normalized text, the fields and the tree.

Does not own: the compiled query.
-/

namespace LinkedQuery.Expr

/-- The indent of a line at some depth. -/
def indent (depth : Nat) : Text :=
  Text.ofList (List.replicate (4 * depth) ' ')

/-- The lines of a term that stand below its comparison. -/
def memberLines (depth : Nat) : Term → List Text
  | .array members _ => members.map fun member => indent (depth + 1) ++ "- " ++ member.label
  | _ => []

mutual

/-- The lines of an expression at some depth. -/
def treeLines (depth : Nat) : Expr → List Text
  | .withAll items => (indent depth ++ "WithList") :: treeLinesAll (depth + 1) items
  | .andAll items => (indent depth ++ "AndList") :: treeLinesAll (depth + 1) items
  | .orAny items => (indent depth ++ "OrList") :: treeLinesAll (depth + 1) items
  | .negation child => (indent depth ++ "Not") :: treeLines (depth + 1) child
  | .linked link child =>
      (indent depth ++ "Linked " ++ link.text) :: treeLines (depth + 1) child
  | .comparison operator field term =>
      (indent depth ++ operator.kind ++ "(" ++ field.name ++ ", " ++ term.label ++ ")") ::
        memberLines depth term
  | .foreign name => [indent depth ++ name]

/-- The lines of several expressions. -/
def treeLinesAll (depth : Nat) : List Expr → List Text
  | [] => []
  | expr :: rest => treeLines depth expr ++ treeLinesAll depth rest

end

/-- The tree of an expression. -/
def tree (expr : Expr) : Text :=
  Text.joinWith "\n" (treeLines 0 expr)

/-- A text with three blanks after each line feed. -/
def indented (text : Text) : Text :=
  Text.joinWith "\n   " (Text.cut '\n' text)

/-- The description of a query: its normalized text, its fields and its tree. -/
def description (expr : Expr) : Text :=
  "Normalized Query:\n   " ++ expr.text ++ "\nUsed Fields:\n   " ++
    Text.joinWith ", " expr.usedFields ++ "\nSyntaxTree:\n   " ++ indented expr.tree

end LinkedQuery.Expr
