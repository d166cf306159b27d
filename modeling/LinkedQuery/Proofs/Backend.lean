import LinkedQuery.Compiler

/-!
Contract: what compiled queries and expressions mean on the documents of a
search backend.

Owns:
- the interpretation of a backend: the conditions that documents meet, the
  clauses that let them pass, their nested and their joined documents;
- the meaning of compiled queries;
- the meaning of terms, of comparisons and of expressions at a root, with the
  documents that a join path leads to.

Does not own: that compilation keeps the meaning.
-/

namespace LinkedQuery

universe u

/-- A condition on one field; weights do not count. -/
inductive Condition
  | present (field : Text)
  | term (field value : Text)
  | phrase (field query : Text)
  | phrasePrefix (field query : Text)
  | wildcard (field value : Text)
  | fuzzy (field value : Text) (prefixLength : Nat)
  | range (field : Text) (bounds : List (Bound × Text))
  | regex (field value : Text)
deriving Repr, DecidableEq

/-- An interpretation of the search backend. -/
structure Backend (Document : Type u) where
  /-- Whether a document meets a condition. -/
  meets : Condition → Document → Prop
  /-- Whether a filter clause lets a document pass. -/
  passes : Json → Document → Prop
  /-- The nested documents of a document under a path. -/
  nested : Text → Document → Document → Prop
  /-- The documents of an index and a type that are joined to a document by a
  field of each. -/
  joined : Text → Text → Option Text → Option Text → Document → Document → Prop

variable {Document : Type u}

/-! ## Compiled queries -/

/-- Whether a document satisfies a clause; a list of values asks for one of
them. -/
def Leaf.Holds (backend : Backend Document) (document : Document) : Leaf → Prop
  | .present field => backend.meets (.present field) document
  | .term field value _ => backend.meets (.term field value) document
  | .terms field values => ∃ value ∈ values, backend.meets (.term field value) document
  | .phrase field query _ => backend.meets (.phrase field query) document
  | .phrasePrefix field query _ => backend.meets (.phrasePrefix field query) document
  | .wildcard field value _ => backend.meets (.wildcard field value) document
  | .fuzzy field value prefixLength _ => backend.meets (.fuzzy field value prefixLength) document
  | .range field bounds _ => backend.meets (.range field bounds) document
  | .regex field value _ => backend.meets (.regex field value) document

namespace Dsl

mutual

/-- Whether a document satisfies a query. -/
def Holds (backend : Backend Document) : Dsl → Document → Prop
  | .leaf clause, document => clause.Holds backend document
  | .must queries, document => HoldsAll backend queries document
  | .should queries, document => HoldsSome backend queries document
  | .mustNot queries, document => ¬ HoldsSome backend queries document
  | .filtered query clause, document =>
      Holds backend query document ∧ backend.passes clause document
  | .nested path query, document =>
      ∃ inner, backend.nested path document inner ∧ Holds backend query inner
  | .subselect index type left right query, document =>
      ∃ other, backend.joined index type left right document other ∧ Holds backend query other
  | .raw json, document => backend.passes json document

/-- Whether a document satisfies all queries. -/
def HoldsAll (backend : Backend Document) : List Dsl → Document → Prop
  | [], _ => True
  | query :: rest, document => Holds backend query document ∧ HoldsAll backend rest document

/-- Whether a document satisfies one of some queries. -/
def HoldsSome (backend : Backend Document) : List Dsl → Document → Prop
  | [], _ => False
  | query :: rest, document => Holds backend query document ∨ HoldsSome backend rest document

end

end Dsl

/-! ## Comparisons -/

namespace Term

mutual

/-- Whether a field of a document matches a term: a null asks for no value, a
phrase with a star at its end for a phrase that begins like it, an array for one
of its members. Other terms have no meaning as values. -/
def Matches (backend : Backend Document) (field : Text) : Term → Document → Prop
  | .null, document => ¬ backend.meets (.present field) document
  | .matchAll, document => backend.meets (.present field) document
  | .string value _, document => backend.meets (.term field value) document
  | .phrase value _, document => backend.meets (.phrase field value) document
  | .phraseWildcard value _, document =>
      ∃ stem : Text,
        value.toList = stem.toList ++ [.char '*'] ∧
        backend.meets (.phrasePrefix field stem) document
  | .wildcard value _, document => backend.meets (.wildcard field value) document
  | .fuzzy value distance _, document => backend.meets (.fuzzy field value distance) document
  | .range start stop _, document =>
      backend.meets (.range field [(.gte, start), (.lte, stop)]) document
  | .array members _, document => MatchesSome backend field members document
  | .regex _ _, _ => False
  | .unparsedArray _ _, _ => False
  | .proximity _ _, _ => False

/-- Whether a field of a document matches one of some terms. -/
def MatchesSome (backend : Backend Document) (field : Text) : List Term → Document → Prop
  | [], _ => False
  | term :: rest, document =>
      Matches backend field term document ∨ MatchesSome backend field rest document

end

/-- Whether a field of a document is on the side of a bound that a term
gives. -/
def Bounds (backend : Backend Document) (bound : Bound) (field : Text) :
    Term → Document → Prop
  | .string value _, document => backend.meets (.range field [(bound, value)]) document
  | _, _ => False

end Term

/-- Whether a comparison holds at a document. -/
def Operator.Compares (backend : Backend Document) (field : Field) (term : Term)
    (document : Document) : Operator → Prop
  | .contains => term.Matches backend field.name document
  | .eq => term.Matches backend field.name document
  | .doesNotContain => ¬ term.Matches backend field.name document
  | .ne => ¬ term.Matches backend field.name document
  | .regex =>
      match term with
      | .regex value _ => backend.meets (.regex field.name value) document
      | _ => False
  | .gt => term.Bounds backend .gt field.name document
  | .gte => term.Bounds backend .gte field.name document
  | .lt => term.Bounds backend .lt field.name document
  | .lte => term.Bounds backend .lte field.name document
  | .moreLikeThis => False
  | .fuzzyLikeThis => False

/-! ## Joins -/

namespace Compiler

/-- Whether a joined document of an index may be seen. -/
def Sees (compiler : Compiler) (backend : Backend Document) (options : IndexOptions)
    (document : Document) : Prop :=
  compiler.ignoreVisibility = true ∨
    ∃ clause,
      compiler.visibility options.backendName (compiler.typeOf options) = .ok clause ∧
      backend.passes clause document

/-- Whether a hop leads from a document to another that may be seen. -/
def Hops (compiler : Compiler) (backend : Backend Document) (hop : Link)
    (document other : Document) : Prop :=
  ∃ options,
    compiler.resolve hop.entity = .ok options ∧
    backend.joined options.backendName (compiler.typeOf options) hop.left hop.right
      document other ∧
    compiler.Sees backend options other

/-- Whether a path leads from a document to another, hop by hop. -/
def Leads (compiler : Compiler) (backend : Backend Document) :
    List Link → Document → Document → Prop
  | [], document, reached => document = reached
  | hop :: rest, document, reached =>
      ∃ next,
        compiler.Hops backend hop document next ∧ Leads compiler backend rest next reached

end Compiler

/-! ## Expressions -/

namespace Expr

mutual

/-- Whether an expression holds at a document of a root. A group asks for one
nested document under its shared path for all items, a link for a document that
the resolved path leads to and where the child holds. -/
def Holds (backend : Backend Document) (compiler : Compiler) :
    Expr → Entity → Document → Prop
  | .withAll items, root, document =>
      ∃ path inner,
        sharedPath items = some path ∧
        backend.nested path document inner ∧
        HoldsAll backend compiler items root inner
  | .andAll items, root, document => HoldsAll backend compiler items root document
  | .orAny items, root, document => HoldsSome backend compiler items root document
  | .negation child, root, document => ¬ Holds backend compiler child root document
  | .linked link child, root, document =>
      ∃ path reached,
        (compiler.resolvePath (.toSelf root) link.entity).outcome = .ok path ∧
        compiler.Leads backend path document reached ∧
        Holds backend compiler child link.entity reached
  | .comparison operator field term, _, document =>
      operator.Compares backend field term document
  | .foreign _, _, _ => False

/-- Whether all expressions hold at a document of a root. -/
def HoldsAll (backend : Backend Document) (compiler : Compiler) :
    List Expr → Entity → Document → Prop
  | [], _, _ => True
  | expr :: rest, root, document =>
      Holds backend compiler expr root document ∧ HoldsAll backend compiler rest root document

/-- Whether one of some expressions holds at a document of a root. -/
def HoldsSome (backend : Backend Document) (compiler : Compiler) :
    List Expr → Entity → Document → Prop
  | [], _, _ => False
  | expr :: rest, root, document =>
      Holds backend compiler expr root document ∨ HoldsSome backend compiler rest root document

end

end Expr

end LinkedQuery
