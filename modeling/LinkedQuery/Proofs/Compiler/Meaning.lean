import LinkedQuery.Proofs.Backend
import LinkedQuery.Proofs.Compiler.Compilation
import LinkedQuery.Proofs.Dsl.Admission
import LinkedQuery.Proofs.Expr
import Mathlib

/-!
Contract: compilation keeps the meaning of expressions.

Owns:
- the meaning of encoded comparisons, arrays included;
- the meaning of a join and of a fold along a path;
- the meaning of compiled expressions at every root, for every interpretation of
  the backend.

Does not own: the meanings themselves.
-/

namespace LinkedQuery

universe u

variable {Document : Type u} {backend : Backend Document} {document : Document}

/-! ## Encoded comparisons -/

namespace Dsl

variable {field : Field} {term : Term} {query : Dsl}

theorem holdsSome_append {left right : List Dsl} :
    HoldsSome backend (left ++ right) document ↔
      HoldsSome backend left document ∨ HoldsSome backend right document := by
  induction left with
  | nil => simp [HoldsSome]
  | cons query rest inductionHypothesis => simp [HoldsSome, inductionHypothesis, or_assoc]

theorem holdsSome_singleton :
    HoldsSome backend [query] document ↔ query.Holds backend document := by
  simp [HoldsSome]

/-- A phrase is matched by its beginning before the star. -/
theorem matches_phraseWildcard_iff
    {name value : Text}
    {boost : Option Boost}
    (truncated : isRightTruncated value = true) :
    (Term.phraseWildcard value boost).Matches backend name document ↔
      backend.meets (.phrasePrefix name (withoutLast value)) document := by
  have split := toList_of_isRightTruncated truncated
  rw [Term.Matches]
  constructor
  · rintro ⟨stem, stemSplit, isMet⟩
    rw [split] at stemSplit
    have same : (withoutLast value).toList = stem.toList := List.append_cancel_right stemSplit
    rw [show withoutLast value = stem from congrArg Text.ofList same]
    exact isMet
  · intro isMet
    exact ⟨withoutLast value, split, isMet⟩

/-- A term that is no array is encoded with its meaning. -/
theorem encodeSingle_holds_iff
    (encoded : encodeSingle field term = .ok query) :
    query.Holds backend document ↔ term.Matches backend field.name document := by
  cases term with
  | phraseWildcard value boost =>
      rw [encodeSingle] at encoded
      split at encoded
      · rename_i truncated
        obtain rfl := Except.ok.inj encoded
        rw [matches_phraseWildcard_iff truncated]
        simp [Holds, Leaf.Holds]
      · cases encoded
  | null =>
      obtain rfl := Except.ok.inj encoded
      simp [Holds, holdsSome_singleton, Leaf.Holds, Term.Matches]
  | regex value boost => cases encoded
  | array members boost => cases encoded
  | unparsedArray value boost => cases encoded
  | proximity parts boost => cases encoded
  | matchAll | string | phrase | wildcard | fuzzy | range =>
      obtain rfl := Except.ok.inj encoded
      simp [Holds, Leaf.Holds, Term.Matches]

/-- Whether a document satisfies an encoded member of an array. -/
def MemberHolds (backend : Backend Document) (field : Field) (document : Document) :
    Text ⊕ Dsl → Prop
  | .inl value => backend.meets (.term field.name value) document
  | .inr query => query.Holds backend document

theorem encodeMember_holds_iff
    {member : Text ⊕ Dsl}
    (encoded : encodeMember field term = .ok member) :
    MemberHolds backend field document member ↔ term.Matches backend field.name document := by
  -- Every member that is no plain string is encoded as it is outside an array.
  have single :
      (encodeSingle field term).map Sum.inr = .ok member →
        (MemberHolds backend field document member ↔
          term.Matches backend field.name document) := by
    intro restated
    obtain ⟨query, alone, rfl⟩ := except_map_eq_ok_iff.mp restated
    exact encodeSingle_holds_iff alone
  cases term with
  | string value boost =>
      obtain rfl := Except.ok.inj encoded
      simp [MemberHolds, Term.Matches]
  | phrase | phraseWildcard | wildcard | fuzzy => exact single encoded
  | null | matchAll | range | regex | array | unparsedArray | proximity => cases encoded

theorem encodeMembers_holds_iff
    {terms : List Term}
    {members : List (Text ⊕ Dsl)}
    (encoded : encodeMembers field terms = .ok members) :
    (∃ member ∈ members, MemberHolds backend field document member) ↔
      Term.MatchesSome backend field.name terms document := by
  induction terms generalizing members with
  | nil =>
      obtain rfl := Except.ok.inj encoded
      simp [Term.MatchesSome]
  | cons term rest inductionHypothesis =>
      obtain ⟨member, others, headEncoded, restEncoded, rfl⟩ :=
        encodeMembers_cons_eq_ok_iff.mp encoded
      rw [Term.MatchesSome, ← inductionHypothesis restEncoded,
        ← encodeMember_holds_iff headEncoded]
      simp

/-- Gathering the strings of an array into one clause keeps what its members ask
for. -/
theorem holdsSome_arrayClauses (members : List (Text ⊕ Dsl)) :
    HoldsSome backend (arrayClauses field members) document ↔
      ∃ member ∈ members, MemberHolds backend field document member := by
  have own :
      HoldsSome backend (members.filterMap Sum.getRight?) document ↔
        ∃ query, Sum.inr query ∈ members ∧ query.Holds backend document := by
    induction members with
    | nil => simp [HoldsSome]
    | cons member rest inductionHypothesis =>
        cases member <;> simp [HoldsSome, List.filterMap_cons, inductionHypothesis]
  have strings :
      HoldsSome backend
          (if (members.filterMap Sum.getLeft?).isEmpty then []
            else [.leaf (.terms field.name (members.filterMap Sum.getLeft?))]) document ↔
        ∃ value, Sum.inl value ∈ members ∧ backend.meets (.term field.name value) document := by
    have listed : ∀ value, value ∈ members.filterMap Sum.getLeft? ↔ Sum.inl value ∈ members := by
      intro value
      simp [List.mem_filterMap]
    split
    · rename_i isEmpty
      have nothing : members.filterMap Sum.getLeft? = [] := List.isEmpty_iff.mp isEmpty
      simp only [nothing, List.not_mem_nil, false_iff] at listed
      simp [HoldsSome, listed]
    · simp only [holdsSome_singleton, Holds, Leaf.Holds, listed]
  rw [arrayClauses, holdsSome_append, own, strings]
  simp only [Sum.exists, MemberHolds]
  exact or_comm

/-- A single clause stands for itself. -/
theorem arrayQuery_holds_iff (clauses : List Dsl) :
    (arrayQuery clauses).Holds backend document ↔ HoldsSome backend clauses document := by
  match clauses with
  | [] => simp [arrayQuery, Holds]
  | [clause] => simp [arrayQuery, HoldsSome]
  | clause :: other :: rest => simp [arrayQuery, Holds]

theorem encodeEquality_holds_iff
    (encoded : encodeEquality field term = .ok query) :
    query.Holds backend document ↔ term.Matches backend field.name document := by
  cases term with
  | array members boost =>
      obtain ⟨encodedMembers, membersEncoded, rfl⟩ := except_map_eq_ok_iff.mp encoded
      rw [arrayQuery_holds_iff, holdsSome_arrayClauses, encodeMembers_holds_iff membersEncoded,
        Term.Matches]
  | null | matchAll | string | phrase | phraseWildcard | wildcard | fuzzy | range | regex
  | unparsedArray | proximity => exact encodeSingle_holds_iff encoded

/-- The encoding of an inequality is the negation of that of the equality. -/
theorem encodeInequality_holds_iff
    (encoded : (encodeEquality field term).map (fun equal => mustNot [equal]) = .ok query) :
    query.Holds backend document ↔ ¬ term.Matches backend field.name document := by
  obtain ⟨equal, equality, rfl⟩ := except_map_eq_ok_iff.mp encoded
  rw [Holds, holdsSome_singleton, encodeEquality_holds_iff equality]

theorem encodeBound_holds_iff
    {bound : Bound}
    {operator : Operator}
    (encoded : encodeBound bound operator field term = .ok query) :
    query.Holds backend document ↔ term.Bounds backend bound field.name document := by
  cases term with
  | string value boost =>
      obtain rfl := Except.ok.inj encoded
      simp [Holds, Leaf.Holds, Term.Bounds]
  | null | matchAll | phrase | phraseWildcard | wildcard | fuzzy | range | regex | array
  | unparsedArray | proximity => cases encoded

end Dsl

/-- A comparison compiles with its meaning. -/
theorem Compiler.compileComparison_holds_iff
    {operator : Operator}
    {field : Field}
    {term : Term}
    {query : Dsl}
    (compiled : compileComparison operator field term = .ok query) :
    query.Holds backend document ↔ operator.Compares backend field term document := by
  cases operator with
  | contains | eq => exact Dsl.encodeEquality_holds_iff compiled
  | doesNotContain | ne => exact Dsl.encodeInequality_holds_iff compiled
  | regex =>
      cases term with
      | regex value boost =>
          obtain rfl := Except.ok.inj compiled
          simp [Dsl.Holds, Leaf.Holds, Operator.Compares]
      | null | matchAll | string | phrase | phraseWildcard | wildcard | fuzzy | range | array
      | unparsedArray | proximity => cases compiled
  | gt | gte | lt | lte => exact Dsl.encodeBound_holds_iff compiled
  | moreLikeThis | fuzzyLikeThis => cases compiled

/-! ## Joins -/

namespace Compiler

variable {compiler : Compiler} {query result : Dsl}

theorem filter_holds_iff
    {options : IndexOptions}
    (filtered :
      (compiler.filter options.backendName (compiler.typeOf options) query).outcome = .ok result) :
    result.Holds backend document ↔
      compiler.Sees backend options document ∧ query.Holds backend document := by
  rcases filter_eq_ok_iff.mp filtered with ⟨ignored, rfl⟩ | ⟨applied, clause, built, rfl⟩
  · simp [Sees, ignored]
  · simp [Sees, applied, built, Dsl.Holds, and_comm]

theorem join_holds_iff
    {hop : Link}
    (joined : (compiler.join hop query).outcome = .ok result) :
    result.Holds backend document ↔
      ∃ other, compiler.Hops backend hop document other ∧ query.Holds backend other := by
  obtain ⟨options, inner, found, filtered, rfl⟩ := join_eq_ok_iff.mp joined
  simp only [Dsl.Holds, filter_holds_iff filtered, Hops, found, Except.ok.injEq]
  constructor
  · rintro ⟨other, isJoined, seen, holds⟩
    exact ⟨other, ⟨options, rfl, isJoined, seen⟩, holds⟩
  · rintro ⟨other, ⟨_, rfl, isJoined, seen⟩, holds⟩
    exact ⟨other, isJoined, seen, holds⟩

/-- A fold asks for a document that the whole path leads to. -/
theorem fold_holds_iff
    {path : List Link}
    (folded : (compiler.fold path query).outcome = .ok result) :
    result.Holds backend document ↔
      ∃ reached, compiler.Leads backend path document reached ∧ query.Holds backend reached := by
  induction path generalizing result document with
  | nil =>
      obtain rfl := Except.ok.inj folded
      simp [Leads]
  | cons hop rest inductionHypothesis =>
      obtain ⟨inner, restFolded, joined⟩ := fold_cons_eq_ok_iff.mp folded
      simp only [join_holds_iff joined, inductionHypothesis restFolded, Leads]
      constructor
      · rintro ⟨next, hops, reached, leads, holds⟩
        exact ⟨reached, ⟨next, hops, leads⟩, holds⟩
      · rintro ⟨reached, ⟨next, hops, leads⟩, holds⟩
        exact ⟨next, hops, reached, leads, holds⟩

/-! ## Expressions -/

/-- A query holds at the documents of a root where the expression does. -/
def Means (compiler : Compiler) (backend : Backend Document) (root : Entity)
    (expr : Expr) (query : Dsl) : Prop :=
  ∀ document, query.Holds backend document ↔ expr.Holds backend compiler root document

variable {root : Link} {items : List Expr} {queries : List Dsl}

theorem holdsAll_iff_of_means
    (means : List.Forall₂ (compiler.Means backend root.entity) items queries) :
    Dsl.HoldsAll backend queries document ↔
      Expr.HoldsAll backend compiler items root.entity document := by
  induction means with
  | nil => simp [Dsl.HoldsAll, Expr.HoldsAll]
  | cons itemMeans _ inductionHypothesis =>
      rw [Dsl.HoldsAll, Expr.HoldsAll, itemMeans document, inductionHypothesis]

theorem holdsSome_iff_of_means
    (means : List.Forall₂ (compiler.Means backend root.entity) items queries) :
    Dsl.HoldsSome backend queries document ↔
      Expr.HoldsSome backend compiler items root.entity document := by
  induction means with
  | nil => simp [Dsl.HoldsSome, Expr.HoldsSome]
  | cons itemMeans _ inductionHypothesis =>
      rw [Dsl.HoldsSome, Expr.HoldsSome, itemMeans document, inductionHypothesis]

/-- Items that each keep their meaning keep it together. -/
theorem forall₂_means
    (compiled :
      List.Forall₂ (fun item query => (compiler.compile root item).outcome = .ok query)
        items queries)
    (keeps :
      ∀ item ∈ items, ∀ query, (compiler.compile root item).outcome = .ok query →
        compiler.Means backend root.entity item query) :
    List.Forall₂ (compiler.Means backend root.entity) items queries := by
  induction compiled with
  | nil => exact .nil
  | cons itemCompiled _ inductionHypothesis =>
      refine .cons (keeps _ (by simp) _ itemCompiled) (inductionHypothesis fun item member => ?_)
      exact keeps item (List.mem_cons_of_mem _ member)

/-- Whatever the backend is like, a compiled query holds at a document of the
root just if the expression does. -/
theorem compile_holds_iff
    (backend : Backend Document)
    {compiler : Compiler}
    {root : Link}
    {expr : Expr}
    {query : Dsl}
    (compiled : (compiler.compile root expr).outcome = .ok query)
    (document : Document) :
    query.Holds backend document ↔ expr.Holds backend compiler root.entity document := by
  induction expr using Expr.induction generalizing root query document with
  | withAll items inductionHypothesis =>
      obtain ⟨path, queries, shared, itemsCompiled, rfl⟩ := compile_withAll_eq_ok_iff.mp compiled
      have means : List.Forall₂ (compiler.Means backend root.entity) items queries :=
        forall₂_means itemsCompiled fun item member _ => inductionHypothesis item member
      simp only [Dsl.Holds, Expr.Holds, shared, holdsAll_iff_of_means means, Option.some.injEq]
      constructor
      · rintro ⟨inner, isNested, holds⟩
        exact ⟨path, inner, rfl, isNested, holds⟩
      · rintro ⟨_, inner, rfl, isNested, holds⟩
        exact ⟨inner, isNested, holds⟩
  | andAll items inductionHypothesis =>
      obtain ⟨queries, itemsCompiled, rfl⟩ := compile_andAll_eq_ok_iff.mp compiled
      have means : List.Forall₂ (compiler.Means backend root.entity) items queries :=
        forall₂_means itemsCompiled fun item member _ => inductionHypothesis item member
      rw [Dsl.Holds, Expr.Holds, holdsAll_iff_of_means means]
  | orAny items inductionHypothesis =>
      obtain ⟨queries, itemsCompiled, rfl⟩ := compile_orAny_eq_ok_iff.mp compiled
      have means : List.Forall₂ (compiler.Means backend root.entity) items queries :=
        forall₂_means itemsCompiled fun item member _ => inductionHypothesis item member
      rw [Dsl.Holds, Expr.Holds, holdsSome_iff_of_means means]
  | negation child inductionHypothesis =>
      obtain ⟨inner, childCompiled, rfl⟩ := compile_negation_eq_ok_iff.mp compiled
      rw [Dsl.Holds, Dsl.holdsSome_singleton, Expr.Holds, inductionHypothesis childCompiled]
  | linked link child inductionHypothesis =>
      obtain ⟨path, inner, resolved, childCompiled, folded⟩ := compile_linked_eq_ok_iff.mp compiled
      simp only [fold_holds_iff folded, Expr.Holds, resolvePath_toSelf, resolved, Except.ok.injEq,
        inductionHypothesis childCompiled, Link.entity_toSelf]
      constructor
      · rintro ⟨reached, leads, holds⟩
        exact ⟨path, reached, rfl, leads, holds⟩
      · rintro ⟨_, reached, rfl, leads, holds⟩
        exact ⟨reached, leads, holds⟩
  | comparison operator field term =>
      rw [compile] at compiled
      rw [Expr.Holds, compileComparison_holds_iff compiled]
  | foreign name =>
      rw [compile] at compiled
      cases compiled

/-! ## A compiled query over two hops -/

section Crossing

open LinkedQuery.Topology

/-- Documents are numbers: each is joined and nested to the next one, has its
own number as the length of its texts, and passes every clause. -/
def counting : Backend Nat where
  meets condition document :=
    match condition with
    | .term _ value => value.length = document
    | .wildcard _ value => value.length < document
    | _ => True
  passes _ _ := True
  nested _ document inner := inner = document + 1
  joined _ _ _ _ document other := other = document + 1

/-- A join over two hops to an array with a string and a wildcard, and a negated
group. -/
def crossingExpr : Expr :=
  .andAll
    [.linked (joinTo 'd')
      (.comparison .eq ⟨⟨[.char 'f']⟩⟩
        (.array [.string ⟨[.char 'x', .char 'y']⟩ none, .wildcard ⟨[.char '*']⟩ none] none)),
     .negation (.withAll [.comparison .ne ⟨⟨[.char 'n', .char '.', .char 'g']⟩⟩ .matchAll])]

/-- The compiled form: each hop has its own filter, the inner one stands behind
the outer one. -/
def crossingQuery : Dsl :=
  .must
    [.subselect ⟨[.char 'B']⟩ ⟨[.char 't']⟩ (some ⟨[.char 'i']⟩) (some ⟨[.char 'j']⟩)
      (.filtered
        (.subselect ⟨[.char 'D']⟩ ⟨[.char 't']⟩ (some ⟨[.char 'i']⟩) (some ⟨[.char 'j']⟩)
          (.filtered
            (.should
              [.leaf (.wildcard ⟨[.char 'f']⟩ ⟨[.char '*']⟩ Double.one),
               .leaf (.terms ⟨[.char 'f']⟩ [⟨[.char 'x', .char 'y']⟩])])
            (quiet.clause ⟨[.char 'D']⟩ ⟨[.char 't']⟩)))
        (quiet.clause ⟨[.char 'B']⟩ ⟨[.char 't']⟩)),
     .mustNot
      [.nested ⟨[.char 'n']⟩
        (.must [.mustNot [.leaf (.present ⟨[.char 'n', .char '.', .char 'g']⟩)]])]]

theorem compile_holds_iff_crossing :
    ((atRest crossing).compile (about 'a') crossingExpr).outcome = .ok crossingQuery ∧
    ∀ document,
      crossingQuery.Holds counting document ↔
        crossingExpr.Holds counting (atRest crossing) (lettered 'a') document :=
  have compiled :
      ((atRest crossing).compile (about 'a') crossingExpr).outcome = .ok crossingQuery := by
    cbv
  ⟨compiled, compile_holds_iff counting compiled⟩

end Crossing

end Compiler

end LinkedQuery
