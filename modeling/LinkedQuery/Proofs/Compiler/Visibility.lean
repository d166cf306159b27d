import LinkedQuery.Proofs.Compiler.Compilation
import LinkedQuery.Proofs.Dsl
import LinkedQuery.Proofs.Expr
import Mathlib

/-!
Contract: the filters at the joins of compiled queries.

Owns:
- the compiler whose joins go without filters, and what it asks its
  collaborators;
- subselects behind the filter that was built for their own index and type;
- the two compilations of one expression, with filters and without: both end
  well together, and the queries differ by the filters alone.

Does not own: what a filter clause lets pass.
-/

namespace LinkedQuery.Compiler

variable {compiler : Compiler} {root : Link} {query : Dsl}

/-- The same compiler with joins that go without filters. -/
def ignoring (compiler : Compiler) : Compiler :=
  { compiler with ignoreVisibility := true }

/-- The same compiler with another builder of filter clauses. -/
def withBuilder (compiler : Compiler) (builder : Text → Text → Except Refusal Json) :
    Compiler :=
  { compiler with visibility := builder }

/-- The query of a subselect stands behind the clause that is built for the
index and the type of that subselect. -/
def Guards (compiler : Compiler) (join : Subselect) : Prop :=
  ∃ inner clause,
    join.query = .filtered inner clause ∧
    compiler.visibility join.index join.type = .ok clause

/-! ## Resolution, which asks for no filter -/

theorem survey_congr
    {left right : Compiler}
    (sameLinks : left.discover = right.discover)
    (entities : List Entity)
    (topology : Topology) :
    left.survey entities topology = right.survey entities topology := by
  induction entities generalizing topology with
  | nil => rfl
  | cons entity rest inductionHypothesis =>
      simp only [survey, sameLinks, inductionHypothesis]

/-- Paths depend on discovery alone. -/
theorem resolvePath_congr
    (left right : Compiler)
    (sameLinks : left.discover = right.discover)
    (sameExtent : left.extent = right.extent)
    (root : Link)
    (target : Entity) :
    left.resolvePath root target = right.resolvePath root target := by
  have sameLinksOf : left.linksOf = right.linksOf := by
    funext entity
    rw [linksOf, linksOf, sameLinks]
  have sameReach : left.reach root.entity = right.reach root.entity := by
    rw [reach, reach, sameLinksOf, sameExtent]
  rw [resolvePath, resolvePath, sameReach, survey_congr sameLinks]

@[simp] theorem resolvePath_ignoring (compiler : Compiler) (root : Link) (target : Entity) :
    compiler.ignoring.resolvePath root target = compiler.resolvePath root target :=
  resolvePath_congr compiler.ignoring compiler rfl rfl root target

@[simp] theorem resolvePath_withBuilder
    (compiler : Compiler)
    (builder : Text → Text → Except Refusal Json)
    (root : Link)
    (target : Entity) :
    (compiler.withBuilder builder).resolvePath root target = compiler.resolvePath root target :=
  resolvePath_congr (compiler.withBuilder builder) compiler rfl rfl root target

/-! ## Compilation without filters asks for none -/

section Ignored

variable (ignored : compiler.ignoreVisibility = true)
  (builder : Text → Text → Except Refusal Json)

include ignored

theorem join_withBuilder (hop : Link) (query : Dsl) :
    (compiler.withBuilder builder).join hop query = compiler.join hop query := by
  have sameFilter :
      ∀ index type inner,
        (compiler.withBuilder builder).filter index type inner =
          compiler.filter index type inner := by
    intro index type inner
    have alsoIgnored : (compiler.withBuilder builder).ignoreVisibility = true := ignored
    rw [filter, filter, if_pos ignored, if_pos alsoIgnored]
  simp only [join, sameFilter]
  rfl

theorem fold_withBuilder (path : List Link) (query : Dsl) :
    (compiler.withBuilder builder).fold path query = compiler.fold path query := by
  induction path with
  | nil => rfl
  | cons hop rest inductionHypothesis =>
      simp only [fold, inductionHypothesis, join_withBuilder ignored]

/-- Where filters are ignored, any builder may stand in for the one that is
there: the same events lead to the same outcome. -/
theorem compile_withBuilder (expr : Expr) :
    (compiler.withBuilder builder).compile root expr = compiler.compile root expr := by
  induction expr using Expr.induction generalizing root with
  | withAll items inductionHypothesis | andAll items inductionHypothesis
  | orAny items inductionHypothesis =>
      simp only [compile, compileAll_congr fun item member => inductionHypothesis item member]
  | negation child inductionHypothesis => simp only [compile, inductionHypothesis]
  | linked link child inductionHypothesis =>
      simp only [compile, resolvePath_withBuilder, inductionHypothesis,
        fold_withBuilder ignored builder]
  | comparison operator field term => simp only [compile]
  | foreign name => simp only [compile]

end Ignored

/-! ## One expression with filters and without -/

theorem subselects_compileComparison
    {operator : Operator}
    {field : Field}
    {term : Term}
    (compiled : compileComparison operator field term = .ok query) :
    query.subselects = [] :=
  Dsl.subselects_encode (encode_of_compileComparison compiled)

/-- A query with filters at its joins, and the same query without them: every
subselect of the first is guarded, and the second has just the filters taken
away. -/
structure Differ (compiler : Compiler) (filtered plain : Dsl) : Prop where
  guarded : ∀ join ∈ filtered.subselects, compiler.Guards join
  plain_eq : plain = filtered.unfiltered

section Applied

variable (applied : compiler.ignoreVisibility = false)

include applied

/-- A join puts one guarded subselect around the query. -/
theorem join_differ
    {hop : Link}
    {joined plain : Dsl}
    (ended : (compiler.join hop query).outcome = .ok joined)
    (differ : compiler.Differ query plain) :
    ∃ plainJoined,
      (compiler.ignoring.join hop plain).outcome = .ok plainJoined ∧
      compiler.Differ joined plainJoined := by
  obtain ⟨options, inner, found, filtered, rfl⟩ := join_eq_ok_iff.mp ended
  obtain ⟨ignored, -⟩ | ⟨-, clause, built, rfl⟩ := filter_eq_ok_iff.mp filtered
  · rw [applied] at ignored
    cases ignored
  · refine ⟨.subselect options.backendName (compiler.typeOf options) hop.left hop.right plain,
      join_eq_ok_iff.mpr ⟨options, plain, found, filter_eq_ok_iff.mpr (.inl ⟨rfl, rfl⟩), rfl⟩,
      ?_, ?_⟩
    · rw [Dsl.subselects, Dsl.subselects, List.forall_mem_cons]
      exact ⟨⟨query, clause, rfl, built⟩, differ.guarded⟩
    · rw [Dsl.unfiltered, differ.plain_eq]

theorem fold_differ
    {path : List Link}
    {folded plain : Dsl}
    (ended : (compiler.fold path query).outcome = .ok folded)
    (differ : compiler.Differ query plain) :
    ∃ plainFolded,
      (compiler.ignoring.fold path plain).outcome = .ok plainFolded ∧
      compiler.Differ folded plainFolded := by
  induction path generalizing folded with
  | nil =>
      obtain rfl := Except.ok.inj ended
      exact ⟨plain, rfl, differ⟩
  | cons hop rest inductionHypothesis =>
      obtain ⟨inner, restFolded, joined⟩ := fold_cons_eq_ok_iff.mp ended
      obtain ⟨plainInner, plainRest, innerDiffer⟩ := inductionHypothesis restFolded
      obtain ⟨plainFolded, plainJoined, foldedDiffer⟩ := join_differ applied joined innerDiffer
      exact ⟨plainFolded, fold_cons_eq_ok_iff.mpr ⟨plainInner, plainRest, plainJoined⟩,
        foldedDiffer⟩

omit applied in
theorem compileAll_differ
    {items : List Expr}
    {queries : List Dsl}
    (compiled :
      List.Forall₂ (fun item query => (compiler.compile root item).outcome = .ok query)
        items queries)
    (differ :
      ∀ item ∈ items, ∀ query, (compiler.compile root item).outcome = .ok query →
        ∃ plain,
          (compiler.ignoring.compile root item).outcome = .ok plain ∧
          compiler.Differ query plain) :
    List.Forall₂ (fun item query => (compiler.ignoring.compile root item).outcome = .ok query)
      items (queries.map Dsl.unfiltered) ∧
    ∀ join ∈ Dsl.subselectsOfAll queries, compiler.Guards join := by
  induction compiled with
  | nil => exact ⟨.nil, by simp [Dsl.subselectsOfAll]⟩
  | cons itemCompiled _ inductionHypothesis =>
      obtain ⟨itemDiffers, restDiffers⟩ := List.forall_mem_cons.mp differ
      obtain ⟨_, plainCompiled, guarded, rfl⟩ := itemDiffers _ itemCompiled
      obtain ⟨plainRest, restGuarded⟩ := inductionHypothesis restDiffers
      refine ⟨.cons plainCompiled plainRest, ?_⟩
      rw [Dsl.subselectsOfAll, List.forall_mem_append]
      exact ⟨guarded, restGuarded⟩

/-- An expression that compiles with filters compiles without them, and the
queries differ by the filters. -/
theorem compile_differ
    {expr : Expr}
    (compiled : (compiler.compile root expr).outcome = .ok query) :
    ∃ plain,
      (compiler.ignoring.compile root expr).outcome = .ok plain ∧
      compiler.Differ query plain := by
  induction expr using Expr.induction generalizing root query with
  | withAll items inductionHypothesis =>
      obtain ⟨path, queries, shared, itemsCompiled, rfl⟩ := compile_withAll_eq_ok_iff.mp compiled
      obtain ⟨plainCompiled, guarded⟩ :=
        compileAll_differ itemsCompiled fun item member _ => inductionHypothesis item member
      refine ⟨_, compile_withAll_eq_ok_iff.mpr ⟨path, _, shared, plainCompiled, rfl⟩, ?_, ?_⟩
      · exact guarded
      · rw [Dsl.unfiltered, Dsl.unfiltered, Dsl.unfilteredAll_eq_map]
  | andAll items inductionHypothesis =>
      obtain ⟨queries, itemsCompiled, rfl⟩ := compile_andAll_eq_ok_iff.mp compiled
      obtain ⟨plainCompiled, guarded⟩ :=
        compileAll_differ itemsCompiled fun item member _ => inductionHypothesis item member
      refine ⟨_, compile_andAll_eq_ok_iff.mpr ⟨_, plainCompiled, rfl⟩, ?_, ?_⟩
      · exact guarded
      · rw [Dsl.unfiltered, Dsl.unfilteredAll_eq_map]
  | orAny items inductionHypothesis =>
      obtain ⟨queries, itemsCompiled, rfl⟩ := compile_orAny_eq_ok_iff.mp compiled
      obtain ⟨plainCompiled, guarded⟩ :=
        compileAll_differ itemsCompiled fun item member _ => inductionHypothesis item member
      refine ⟨_, compile_orAny_eq_ok_iff.mpr ⟨_, plainCompiled, rfl⟩, ?_, ?_⟩
      · exact guarded
      · rw [Dsl.unfiltered, Dsl.unfilteredAll_eq_map]
  | negation child inductionHypothesis =>
      obtain ⟨inner, childCompiled, rfl⟩ := compile_negation_eq_ok_iff.mp compiled
      obtain ⟨_, plainCompiled, guarded, rfl⟩ := inductionHypothesis childCompiled
      refine ⟨_, compile_negation_eq_ok_iff.mpr ⟨_, plainCompiled, rfl⟩, ?_, rfl⟩
      simpa [Dsl.subselects, Dsl.subselectsOfAll] using guarded
  | linked link child inductionHypothesis =>
      obtain ⟨path, inner, resolved, childCompiled, folded⟩ := compile_linked_eq_ok_iff.mp compiled
      obtain ⟨plainInner, plainCompiled, innerDiffer⟩ := inductionHypothesis childCompiled
      obtain ⟨plain, plainFolded, differ⟩ := fold_differ applied folded innerDiffer
      have plainResolved : (compiler.ignoring.resolvePath root link.entity).outcome = .ok path := by
        rw [resolvePath_ignoring, resolved]
      exact ⟨plain,
        compile_linked_eq_ok_iff.mpr ⟨path, plainInner, plainResolved, plainCompiled, plainFolded⟩,
        differ⟩
  | comparison operator field term =>
      have joinless : query.subselects = [] := subselects_compileComparison compiled
      refine ⟨query, compiled, ?_, ?_⟩
      · simp [joinless]
      · rw [Dsl.unfiltered_of_no_subselects query joinless]
  | foreign name => cases compiled

end Applied

/-- Where filters are applied, every join of a compiled query stands behind the
filter of its own index and type; without filters the same expression compiles
to the same query with just those filters taken away, and whatever builder is
there is not asked. -/
theorem compile_visibility
    (compiler : Compiler)
    (root : Link)
    (expr : Expr)
    (query : Dsl)
    (applied : compiler.ignoreVisibility = false)
    (compiled : (compiler.compile root expr).outcome = .ok query) :
    (∀ join ∈ query.subselects, compiler.Guards join) ∧
    (compiler.ignoring.compile root expr).outcome = .ok query.unfiltered ∧
    ∀ builder,
      (compiler.ignoring.withBuilder builder).compile root expr =
        compiler.ignoring.compile root expr := by
  obtain ⟨_, plainCompiled, guarded, rfl⟩ := compile_differ applied compiled
  exact ⟨guarded, plainCompiled, fun builder => compile_withBuilder rfl builder expr⟩

/-! ## A negated join there and back -/

section Crossing

open LinkedQuery.Topology

/-- No document that is joined to `d` and from there back to `a` has a field. -/
def roundTrip : Expr :=
  .negation
    (.linked (joinTo 'd')
      (.linked (joinTo 'a') (.comparison .contains ⟨⟨[.char 'f']⟩⟩ .matchAll)))

/-- The compiled form: three joins, each behind the filter of its own index. -/
def roundTripQuery : Dsl :=
  .mustNot [guardedAt 'B' (guardedAt 'D' (guardedAt 'A' (.leaf (.present ⟨[.char 'f']⟩))))]

theorem compile_visibility_roundTrip :
    (atRest crossing).ignoreVisibility = false ∧
    ((atRest crossing).compile (about 'a') roundTrip).outcome = .ok roundTripQuery ∧
    (∀ join ∈ roundTripQuery.subselects, (atRest crossing).Guards join) ∧
    ((atRest crossing).ignoring.compile (about 'a') roundTrip).outcome =
      .ok roundTripQuery.unfiltered ∧
    ∀ builder,
      ((atRest crossing).ignoring.withBuilder builder).compile (about 'a') roundTrip =
        (atRest crossing).ignoring.compile (about 'a') roundTrip :=
  have compiled :
      ((atRest crossing).compile (about 'a') roundTrip).outcome = .ok roundTripQuery := by
    cbv
  ⟨rfl, compiled, compile_visibility _ _ _ _ rfl compiled⟩

end Crossing

end LinkedQuery.Compiler
