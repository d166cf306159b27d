import LinkedQuery.Document
import Mathlib.Data.List.Forall2

/-!
Contract: the grammar of query documents, and what each document denotes.

Owns:
- the scalars of a document and the two ways to show one as text;
- weights, boosts and distances as they stand in a mapping;
- the terms that mappings denote, and the expressions that documents denote.

Does not own: the reader, its faults and their places.
-/

namespace LinkedQuery

namespace Value

/-- What the reader takes for a scalar: anything but null, a truth value, a list and a
mapping.  It refuses nothing else, so sets and pairs count as scalars. -/
def IsScalar : Value → Prop
  | .scalar .null => False
  | .scalar (.bool _) => False
  | .scalar _ => True
  | .set _ => True
  | .pair _ _ => True
  | .list _ => False
  | .map _ => False
  | .again _ => False

/-- The text of a scalar, however long it is. -/
def Plain (value : Value) (text : Text) : Prop :=
  value.IsScalar ∧ value.plain = text

/-- The text of a scalar in which no integer is too long to be written. -/
def Written (value : Value) (text : Text) : Prop :=
  value.Plain text ∧ value.isOverlong = false

end Value

namespace Document

/-! ## Weights and distances -/

/-- The weight that stands in a mapping: none if it is absent or null, and otherwise
a number that has a finite binary64, or is one of binary64 itself. -/
inductive Weighs : Option Value → Option Double → Prop
  | absent : Weighs none none
  | null : Weighs (some (.scalar .null)) none
  | int {value : Int} :
      (Double.ofInt value).isFinite = true →
      Weighs (some (.scalar (.int value))) (some (.ofInt value))
  | float {value : Double} : Weighs (some (.scalar (.float value))) (some value)
  | nan {label : Nat} : Weighs (some (.scalar (.nan label))) (some .nan)

/-- The boost of a weight.  A boost is finite and not below zero, so other weights
have none. -/
inductive Boosts : Option Double → Option Boost → Prop
  | absent : Boosts none none
  | present {boost : Boost} {weight : Double} :
      boost.number = .float weight →
      Boosts (some weight) (some boost)

/-- The distance that stands in a mapping: zero if it is absent, and otherwise an
integer that is not below zero. -/
inductive Distance (entries : Entries) : Nat → Prop
  | absent : entries.get? "distance" = none → Distance entries 0
  | present {distance : Nat} :
      entries.get? "distance" = some (.scalar (.int distance)) →
      Distance entries distance

/-! ## Terms -/

/-- The kinds of terms that are a text with a boost. -/
def TermKind.build? : TermKind → Option (Text → Option Boost → Term)
  | .string => some .string
  | .phrase => some .phrase
  | .phraseWildcard => some .phraseWildcard
  | .wildcard => some .wildcard
  | .regex => some .regex
  | .unparsedArray => some .unparsedArray
  | _ => none

/-- A mapping has a value under the key of one kind of terms, and none under the key
of any other. -/
def Names (entries : Entries) (kind : TermKind) (value : Value) : Prop :=
  entries.get? kind.key = some value ∧ ∀ other, other ≠ kind → entries.get? other.key = none

section Grammar

variable (shows : Value → Text → Prop)

/-- The term without terms below it that a kind and a value denote, given the mapping
around them and its weight. -/
inductive DenotesSimple (entries : Entries) (weight : Option Double) :
    TermKind → Value → Term → Prop
  | null : DenotesSimple entries weight .null (.scalar (.bool true)) .null
  | matchAll : DenotesSimple entries weight .matchAll (.scalar (.bool true)) .matchAll
  | single
      {kind : TermKind}
      {build : Text → Option Boost → Term}
      {value : Value}
      {text : Text}
      {boost : Option Boost} :
      kind.build? = some build →
      shows value text →
      Boosts weight boost →
      DenotesSimple entries weight kind value (build text boost)
  | fuzzy {value : Value} {text : Text} {distance : Nat} {boost : Option Boost} :
      shows value text →
      Distance entries distance →
      Boosts weight boost →
      DenotesSimple entries weight .fuzzy value (.fuzzy text distance boost)
  | range {start stop : Value} {startText stopText : Text} {boost : Option Boost} :
      shows start startText →
      shows stop stopText →
      Boosts weight boost →
      DenotesSimple entries weight .range (.list [start, stop]) (.range startText stopText boost)
  | proximity {parts : List Value} {texts : List Text} {boost : Option Boost} :
      List.Forall₂ shows parts texts →
      Boosts weight boost →
      DenotesSimple entries weight .proximity (.list parts) (.proximity texts boost)

mutual

/-- The term that a mapping denotes: it names one kind of terms, whatever else it
holds. -/
inductive DenotesTerm : Entries → Term → Prop
  | simple
      {entries : Entries}
      {kind : TermKind}
      {value : Value}
      {weight : Option Double}
      {term : Term} :
      Names entries kind value →
      Weighs (entries.get? "boost") weight →
      DenotesSimple shows entries weight kind value term →
      DenotesTerm entries term
  | array
      {entries : Entries}
      {items : List Value}
      {weight : Option Double}
      {members : List Term}
      {boost : Option Boost} :
      Names entries .array (.list items) →
      Weighs (entries.get? "boost") weight →
      DenotesMembers items members →
      Boosts weight boost →
      DenotesTerm entries (.array members boost)

/-- The members that the items of an array denote: a mapping is a term, a scalar a
string without a boost. -/
inductive DenotesMembers : List Value → List Term → Prop
  | nil : DenotesMembers [] []
  | term {entries : Entries} {rest : List Value} {member : Term} {members : List Term} :
      DenotesTerm entries member →
      DenotesMembers rest members →
      DenotesMembers (.map entries :: rest) (member :: members)
  | text {item : Value} {rest : List Value} {text : Text} {members : List Term} :
      shows item text →
      DenotesMembers rest members →
      DenotesMembers (item :: rest) (.string text none :: members)

end

/-! ## Expressions -/

/-- The kinds of nodes that a document can name. -/
inductive NodeKind
  | andAll
  | orAny
  | withAll
  | negation
  | linked
  | comparison (operator : Operator)
deriving Repr, DecidableEq

/-- The key of a kind. -/
def NodeKind.key : NodeKind → Text
  | .andAll => "and"
  | .orAny => "or"
  | .withAll => "with"
  | .negation => "not"
  | .linked => "linked"
  | .comparison operator => operator.key

/-- The kinds of nodes that are a list of expressions. -/
def NodeKind.build? : NodeKind → Option (List Expr → Expr)
  | .andAll => some .andAll
  | .orAny => some .orAny
  | .withAll => some .withAll
  | _ => none

mutual

/-- The expression that a document denotes: it is a mapping with one key, a text that
names the kind of a node. -/
inductive Denotes : Value → Expr → Prop
  | node {kind : NodeKind} {body : Value} {expr : Expr} :
      DenotesNode kind body expr →
      Denotes (.map [(.text kind.key, body)]) expr

/-- The expression that a node of a kind denotes by its body. -/
inductive DenotesNode : NodeKind → Value → Expr → Prop
  | group
      {kind : NodeKind}
      {build : List Expr → Expr}
      {items : List Value}
      {exprs : List Expr} :
      kind.build? = some build →
      items ≠ [] →
      DenotesItems items exprs →
      DenotesNode kind (.list items) (build exprs)
  | negation {body : Value} {child : Expr} :
      Denotes body child →
      DenotesNode .negation body (.negation child)
  | linked
      {entries : Entries}
      {declaration : Text}
      {link : Link}
      {query : Value}
      {child : Expr} :
      entries.get? "link" = some (.scalar (.text declaration)) →
      Link.parse declaration = .ok link →
      entries.get? "query" = some query →
      Denotes query child →
      DenotesNode .linked (.map entries) (.linked link child)
  | comparison {operator : Operator} {entries : Entries} {name : Text} {term : Term} :
      entries.get? "field" = some (.scalar (.text name)) →
      Text.isAllBlank name = false →
      DenotesTerm shows entries term →
      DenotesNode (.comparison operator) (.map entries)
        (.comparison operator ⟨Text.trimmed name⟩ term)

/-- The expressions that documents denote one by one. -/
inductive DenotesItems : List Value → List Expr → Prop
  | nil : DenotesItems [] []
  | cons {item : Value} {rest : List Value} {expr : Expr} {exprs : List Expr} :
      Denotes item expr →
      DenotesItems rest exprs →
      DenotesItems (item :: rest) (expr :: exprs)

end

end Grammar

end Document

end LinkedQuery
