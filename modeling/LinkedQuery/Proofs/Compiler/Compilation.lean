import LinkedQuery.Proofs.Compiler.Discovery
import LinkedQuery.Proofs.Expr

/-!
Contract: when a compilation ends well, and with what.

Owns:
- the root of a compilation, a link of which only the entity is looked at;
- for each kind of expression, the queries that it compiles to;
- joins and folds the same way;
- a linked expression as its child at the target, folded along the path.

Does not own: what queries mean.
-/

namespace LinkedQuery.Compiler

open Traversal

variable {compiler : Compiler} {root : Link} {query : Dsl}

/-! ## Roots -/

@[simp] theorem resolvePath_toSelf (compiler : Compiler) (root : Link) (target : Entity) :
    compiler.resolvePath (.toSelf root.entity) target = compiler.resolvePath root target := rfl

/-- Lists compile alike if their items do. -/
theorem compileAll_congr
    {first second : Compiler}
    {root other : Link}
    {items : List Expr}
    (each : ∀ item ∈ items, first.compile root item = second.compile other item) :
    first.compileAll root items = second.compileAll other items := by
  induction items with
  | nil => simp only [compileAll]
  | cons item rest inductionHypothesis =>
      obtain ⟨sameItem, sameRest⟩ := List.forall_mem_cons.mp each
      simp only [compileAll, sameItem, inductionHypothesis sameRest]

/-- A root stands for its entity: the self link of the entity does as well. -/
theorem compile_toSelf (compiler : Compiler) (root : Link) (expr : Expr) :
    compiler.compile (.toSelf root.entity) expr = compiler.compile root expr := by
  induction expr using Expr.induction with
  | withAll items same | andAll items same | orAny items same =>
      simp only [compile, compileAll_congr same]
  | negation child same => simp only [compile, same]
  | linked link child same => simp only [compile, resolvePath_toSelf, same]
  | comparison operator field term => simp only [compile]
  | foreign name => simp only [compile]

/-! ## Joins and folds -/

theorem filter_eq_ok_iff {index type : Text} {inner : Dsl} :
    (compiler.filter index type query).outcome = .ok inner ↔
      compiler.ignoreVisibility = true ∧ inner = query ∨
      compiler.ignoreVisibility = false ∧
        ∃ clause, compiler.visibility index type = .ok clause ∧ inner = .filtered query clause := by
  unfold filter
  cases ignored : compiler.ignoreVisibility with
  | true => simp [eq_comm]
  | false =>
      cases built : compiler.visibility index type with
      | error refusal => simp
      | ok clause => simp [Except.bind, eq_comm]

theorem join_eq_ok_iff {hop : Link} {joined : Dsl} :
    (compiler.join hop query).outcome = .ok joined ↔
      ∃ options inner,
        compiler.resolve hop.entity = .ok options ∧
        (compiler.filter options.backendName (compiler.typeOf options) query).outcome = .ok inner ∧
        joined =
          .subselect options.backendName (compiler.typeOf options) hop.left hop.right inner := by
  unfold join
  cases found : compiler.resolve hop.entity with
  | error refusal => simp
  | ok options =>
      simp only [Traced.bind_eq_ok_iff, Traced.outcome_emit_bind, Traced.outcome_pure,
        Except.ok.injEq]
      constructor
      · rintro ⟨inner, filtered, rfl⟩
        exact ⟨options, inner, rfl, filtered, rfl⟩
      · rintro ⟨_, inner, rfl, filtered, rfl⟩
        exact ⟨inner, filtered, rfl⟩

@[simp] theorem fold_nil : compiler.fold [] query = .ok query := rfl

theorem fold_cons_eq_ok_iff {hop : Link} {rest : List Link} {folded : Dsl} :
    (compiler.fold (hop :: rest) query).outcome = .ok folded ↔
      ∃ inner,
        (compiler.fold rest query).outcome = .ok inner ∧
        (compiler.join hop inner).outcome = .ok folded :=
  Traced.bind_eq_ok_iff

/-- A path is folded from its end: first the back of it, then the front. -/
theorem fold_append_eq (front back : List Link) :
    compiler.fold (front ++ back) query =
      (compiler.fold back query >>= compiler.fold front) := by
  induction front with
  | nil => exact (Traced.bind_ok _).symm
  | cons hop front inductionHypothesis =>
      calc
        compiler.fold (hop :: front ++ back) query =
            (compiler.fold (front ++ back) query >>= compiler.join hop) := rfl
        _ = (compiler.fold back query >>= compiler.fold front >>= compiler.join hop) := by
            rw [inductionHypothesis]
        _ = (compiler.fold back query >>= compiler.fold (hop :: front)) := Traced.bind_bind _ _ _

theorem fold_append (front back : List Link) :
    (compiler.fold (front ++ back) query).outcome =
      (compiler.fold back query).outcome.bind fun inner =>
        (compiler.fold front inner).outcome := by
  rw [fold_append_eq, Traced.outcome_bind]

/-! ## Expressions -/

/-- Expressions compile one after the other, each to its own query. -/
theorem compileAll_eq_ok_iff {items : List Expr} {queries : List Dsl} :
    (compiler.compileAll root items).outcome = .ok queries ↔
      List.Forall₂ (fun item query => (compiler.compile root item).outcome = .ok query)
        items queries := by
  induction items generalizing queries with
  | nil => simp [compileAll, eq_comm]
  | cons item rest inductionHypothesis =>
      simp only [compileAll, Traced.bind_eq_ok_iff, Traced.outcome_pure, Except.ok.injEq,
        inductionHypothesis, List.forall₂_cons_left_iff]
      constructor
      · rintro ⟨query, compiled, others, restCompiled, rfl⟩
        exact ⟨query, others, compiled, restCompiled, rfl⟩
      · rintro ⟨query, others, compiled, restCompiled, rfl⟩
        exact ⟨query, compiled, others, restCompiled, rfl⟩

theorem compile_withAll_eq_ok_iff {items : List Expr} :
    (compiler.compile root (.withAll items)).outcome = .ok query ↔
      ∃ path queries,
        Expr.sharedPath items = some path ∧
        List.Forall₂ (fun item query => (compiler.compile root item).outcome = .ok query)
          items queries ∧
        query = .nested path (.must queries) := by
  rw [compile]
  cases shared : Expr.sharedPath items with
  | none => simp
  | some path =>
      simp only [Traced.bind_pure_eq_ok_iff, compileAll_eq_ok_iff, Option.some.injEq]
      constructor
      · rintro ⟨queries, compiled, rfl⟩
        exact ⟨path, queries, rfl, compiled, rfl⟩
      · rintro ⟨_, queries, rfl, compiled, rfl⟩
        exact ⟨queries, compiled, rfl⟩

theorem compile_andAll_eq_ok_iff {items : List Expr} :
    (compiler.compile root (.andAll items)).outcome = .ok query ↔
      ∃ queries,
        List.Forall₂ (fun item query => (compiler.compile root item).outcome = .ok query)
          items queries ∧
        query = .must queries := by
  simp only [compile, Traced.bind_pure_eq_ok_iff, compileAll_eq_ok_iff]

theorem compile_orAny_eq_ok_iff {items : List Expr} :
    (compiler.compile root (.orAny items)).outcome = .ok query ↔
      ∃ queries,
        List.Forall₂ (fun item query => (compiler.compile root item).outcome = .ok query)
          items queries ∧
        query = .should queries := by
  simp only [compile, Traced.bind_pure_eq_ok_iff, compileAll_eq_ok_iff]

theorem compile_negation_eq_ok_iff {child : Expr} :
    (compiler.compile root (.negation child)).outcome = .ok query ↔
      ∃ inner, (compiler.compile root child).outcome = .ok inner ∧ query = .mustNot [inner] := by
  rw [compile, Traced.bind_pure_eq_ok_iff]

/-- A comparison that compiles is encoded as it stands. -/
theorem encode_of_compileComparison
    {operator : Operator}
    {field : Field}
    {term : Term}
    (compiled : compileComparison operator field term = .ok query) :
    Dsl.encode operator field term = .ok query := by
  cases operator with
  | moreLikeThis | fuzzyLikeThis => cases compiled
  | contains | eq | doesNotContain | ne | regex | gt | gte | lt | lte =>
      simpa only [compileComparison] using compiled

/-- A linked expression compiles as its child at the target, folded along the
path; the path to the root itself is empty and folds nothing. -/
theorem compile_linked_outcome
    (compiler : Compiler)
    (root link : Link)
    (child : Expr) :
    (compiler.compile root (.linked link child)).outcome =
      (compiler.resolvePath root link.entity).outcome.bind fun path =>
        (compiler.compile (.toSelf link.entity) child).outcome.bind fun query =>
          (compiler.fold path query).outcome := by
  rw [compile, Traced.outcome_bind]
  cases resolved : (compiler.resolvePath root link.entity).outcome with
  | error error => rfl
  | ok path =>
      simp only [Except.bind]
      cases path with
      | nil =>
          obtain ⟨-, first⟩ := resolvePath_eq_ok_iff.mp resolved
          have here : root.entity = link.entity := first.chain
          simp only [List.isEmpty_nil, if_true, fold_nil, Traced.outcome_ok]
          rw [← here, compile_toSelf]
          cases (compiler.compile root child).outcome <;> rfl
      | cons hop rest =>
          simp only [List.isEmpty_cons, Bool.false_eq_true, if_false, Traced.outcome_bind]
          rfl

theorem compile_linked_eq_ok_iff {link : Link} {child : Expr} :
    (compiler.compile root (.linked link child)).outcome = .ok query ↔
      ∃ path inner,
        (compiler.resolvePath root link.entity).outcome = .ok path ∧
        (compiler.compile (.toSelf link.entity) child).outcome = .ok inner ∧
        (compiler.fold path inner).outcome = .ok query := by
  simp only [compile_linked_outcome, except_bind_eq_ok_iff, exists_and_left]

end LinkedQuery.Compiler
