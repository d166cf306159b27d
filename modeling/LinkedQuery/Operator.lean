import LinkedQuery.Text

/-!
Contract: comparison operators.

Owns:
- the eleven operators with their symbols and names.

Does not own: which terms an operator admits.
-/

namespace LinkedQuery

/-- A comparison operator. -/
inductive Operator
  | contains
  | eq
  | doesNotContain
  | ne
  | regex
  | gt
  | gte
  | lt
  | lte
  | moreLikeThis
  | fuzzyLikeThis
deriving Repr, DecidableEq

namespace Operator

/-- All operators. -/
def all : List Operator :=
  [.contains, .eq, .doesNotContain, .ne, .regex, .gt, .gte, .lt, .lte, .moreLikeThis,
   .fuzzyLikeThis]

/-- The symbol in normalized text. -/
def symbol : Operator → String
  | .contains => ":"
  | .eq => "="
  | .doesNotContain => "<>"
  | .ne => "!="
  | .regex => ":~"
  | .gt => ">"
  | .gte => ">="
  | .lt => "<"
  | .lte => "<="
  | .moreLikeThis => ":@"
  | .fuzzyLikeThis => ":@~"

/-- The name in messages. -/
def name : Operator → String
  | .contains => "CONTAINS"
  | .eq => "EQ"
  | .doesNotContain => "DOES_NOT_CONTAIN"
  | .ne => "NE"
  | .regex => "REGEX"
  | .gt => "GT"
  | .gte => "GTE"
  | .lt => "LT"
  | .lte => "LTE"
  | .moreLikeThis => "MORE_LIKE_THIS"
  | .fuzzyLikeThis => "FUZZY_LIKE_THIS"

/-- The kind of node in trees and messages. -/
def kind : Operator → String
  | .contains => "Contains"
  | .eq => "Eq"
  | .doesNotContain => "DoesNotContain"
  | .ne => "Ne"
  | .regex => "Regex"
  | .gt => "Gt"
  | .gte => "Gte"
  | .lt => "Lt"
  | .lte => "Lte"
  | .moreLikeThis => "MoreLikeThis"
  | .fuzzyLikeThis => "FuzzyLikeThis"

/-- The key in query documents. -/
def key : Operator → String
  | .contains => "contains"
  | .eq => "eq"
  | .doesNotContain => "does_not_contain"
  | .ne => "ne"
  | .regex => "regex"
  | .gt => "gt"
  | .gte => "gte"
  | .lt => "lt"
  | .lte => "lte"
  | .moreLikeThis => "more_like_this"
  | .fuzzyLikeThis => "fuzzy_like_this"

/-- The operator with a given text among those of a naming. -/
def find? (naming : Operator → String) (text : Text) : Option Operator :=
  all.find? fun operator => Text.ofString (naming operator) = text

end Operator

end LinkedQuery
