import LinkedQuery.Proofs.Compiler.Compilation
import LinkedQuery.Proofs.Dsl.Admission
import LinkedQuery.Proofs.Expr
import Mathlib

/-!
Contract: spellings of one comparison that compile alike.

Owns:
- expressions that differ by the spelling of their comparisons, at any depth;
- the compilations of such expressions: one trail of events and one query, or
  errors of one kind.

Does not own: what a comparison is encoded as.
-/

namespace LinkedQuery

/-! ## Spellings -/

/-- Two expressions are equal but for the spelling of comparisons: an equality
may have either of its operators, and an inequality may have either of its
operators or be a negated equality. -/
inductive Expr.Aliases : Expr → Expr → Prop
  | equality
      {first second : Operator}
      (field : Field)
      (term : Term)
      (firstEquates : first.isEquality = true)
      (secondEquates : second.isEquality = true) :
      Aliases (.comparison first field term) (.comparison second field term)
  | inequality
      {first second : Operator}
      (field : Field)
      (term : Term)
      (firstParts : first.isInequality = true)
      (secondParts : second.isInequality = true) :
      Aliases (.comparison first field term) (.comparison second field term)
  | negated
      {parting equating : Operator}
      (field : Field)
      (term : Term)
      (parts : parting.isInequality = true)
      (equates : equating.isEquality = true) :
      Aliases (.comparison parting field term) (.negation (.comparison equating field term))
  | unnegated
      {parting equating : Operator}
      (field : Field)
      (term : Term)
      (parts : parting.isInequality = true)
      (equates : equating.isEquality = true) :
      Aliases (.negation (.comparison equating field term)) (.comparison parting field term)
  | withAll
      {items others : List Expr}
      (sameLength : items.length = others.length)
      (each : ∀ {item other : Expr}, (item, other) ∈ items.zip others → Aliases item other) :
      Aliases (.withAll items) (.withAll others)
  | andAll
      {items others : List Expr}
      (sameLength : items.length = others.length)
      (each : ∀ {item other : Expr}, (item, other) ∈ items.zip others → Aliases item other) :
      Aliases (.andAll items) (.andAll others)
  | orAny
      {items others : List Expr}
      (sameLength : items.length = others.length)
      (each : ∀ {item other : Expr}, (item, other) ∈ items.zip others → Aliases item other) :
      Aliases (.orAny items) (.orAny others)
  | negation {child other : Expr} (below : Aliases child other) :
      Aliases (.negation child) (.negation other)
  | linked {child other : Expr} (link : Link) (below : Aliases child other) :
      Aliases (.linked link child) (.linked link other)
  | comparison (operator : Operator) (field : Field) (term : Term) :
      Aliases (.comparison operator field term) (.comparison operator field term)
  | foreign (name : String) : Aliases (.foreign name) (.foreign name)

namespace Expr

/-! ## What spelling does not touch -/

theorem map_eq_of_pairs
    {α : Type}
    {measure : Expr → α}
    {items others : List Expr}
    (pairs : List.Forall₂ (fun item other => measure item = measure other) items others) :
    items.map measure = others.map measure := by
  rw [← List.forall₂_eq_eq_eq, List.forall₂_map_left_iff, List.forall₂_map_right_iff]
  exact pairs

theorem Aliases.ownPaths_eq {expr other : Expr} (aliases : Aliases expr other) :
    expr.ownPaths = other.ownPaths := by
  induction aliases with
  | withAll sameLength _ same | andAll sameLength _ same | orAny sameLength _ same =>
      have pairs := List.forall₂_iff_zip.mpr ⟨sameLength, same⟩
      rw [ownPaths, ownPaths, ownPathsAll_eq_flatten, ownPathsAll_eq_flatten,
        map_eq_of_pairs pairs]
  | negation _ same => rw [ownPaths, ownPaths, same]
  | linked => rfl
  | equality | inequality | negated | unnegated | comparison => rfl
  | foreign name => rfl

/-- Aliases share a nested path just if the expressions do. -/
theorem sharedPath_eq_of_aliases
    {items others : List Expr}
    (each : List.Forall₂ Aliases items others) :
    sharedPath items = sharedPath others := by
  have samePaths : ownPathsAll items = ownPathsAll others := by
    rw [ownPathsAll_eq_flatten, ownPathsAll_eq_flatten,
      map_eq_of_pairs (each.imp fun _ _ aliases => aliases.ownPaths_eq)]
  exact sharedPath_congr fun path => by rw [samePaths]

theorem Aliases.isOverlong_eq {expr other : Expr} (aliases : Aliases expr other) :
    expr.isOverlong = other.isOverlong := by
  induction aliases with
  | withAll sameLength _ same | andAll sameLength _ same | orAny sameLength _ same =>
      have pairs := List.forall₂_iff_zip.mpr ⟨sameLength, same⟩
      rw [isOverlong_eq_any_children rfl, isOverlong_eq_any_children rfl, children, children,
        map_eq_of_pairs pairs]
  | negation _ same | linked _ _ same =>
      rw [isOverlong_eq_any_children rfl, isOverlong_eq_any_children rfl, children, children,
        List.map_singleton, List.map_singleton, same]
  | equality | inequality | comparison => rfl
  | negated | unnegated => rfl
  | foreign name => rfl

end Expr

/-! ## Compilations -/

namespace Compiler

theorem compileComparison_of_isEquality
    {operator : Operator}
    (equates : operator.isEquality = true)
    (field : Field)
    (term : Term) :
    compileComparison operator field term = Dsl.encodeEquality field term := by
  cases operator with
  | contains | eq => rfl
  | _ => cases equates

theorem compileComparison_of_isInequality
    {operator : Operator}
    (parts : operator.isInequality = true)
    (field : Field)
    (term : Term) :
    compileComparison operator field term =
      (Dsl.encodeEquality field term).map fun query => .mustNot [query] := by
  cases operator with
  | doesNotContain | ne => rfl
  | _ => cases parts

/-- A negated equality compiles as an inequality does. -/
theorem compile_negation_of_isEquality
    (compiler : Compiler)
    (root : Link)
    {parting equating : Operator}
    (parts : parting.isInequality = true)
    (equates : equating.isEquality = true)
    (field : Field)
    (term : Term) :
    compiler.compile root (.negation (.comparison equating field term)) =
      compiler.compile root (.comparison parting field term) := by
  simp only [compile, compileComparison_of_isEquality equates,
    compileComparison_of_isInequality parts]
  cases Dsl.encodeEquality field term <;> rfl

theorem compileAll_kind_eq
    {compiler : Compiler}
    {root : Link}
    {items others : List Expr}
    (pairs :
      List.Forall₂
        (fun item other =>
          (compiler.compile root item).mapError QueryError.kind =
            (compiler.compile root other).mapError QueryError.kind)
        items others) :
    (compiler.compileAll root items).mapError QueryError.kind =
      (compiler.compileAll root others).mapError QueryError.kind := by
  induction pairs with
  | nil => rfl
  | cons same _ inductionHypothesis =>
      simp only [compileAll, Traced.mapError_bind, same, inductionHypothesis, Traced.mapError_pure]

/-- Aliases compile alike: the same events lead to the same query, or to errors
of the same kind. -/
theorem compile_kind_eq_of_aliases
    (compiler : Compiler)
    (root : Link)
    (expr other : Expr)
    (aliases : expr.Aliases other) :
    (compiler.compile root expr).mapError QueryError.kind =
      (compiler.compile root other).mapError QueryError.kind := by
  induction aliases generalizing root with
  | equality field term first second =>
      simp only [compile, compileComparison_of_isEquality first,
        compileComparison_of_isEquality second]
  | inequality field term first second =>
      simp only [compile, compileComparison_of_isInequality first,
        compileComparison_of_isInequality second]
  | negated field term parts equates =>
      rw [compile_negation_of_isEquality compiler root parts equates]
  | unnegated field term parts equates =>
      rw [compile_negation_of_isEquality compiler root parts equates]
  | @withAll items others sameLength each same =>
      have pairs := List.forall₂_iff_zip.mpr ⟨sameLength, fun member => same member root⟩
      have sameGroup := Expr.Aliases.withAll sameLength each
      rw [compile, compile,
        Expr.sharedPath_eq_of_aliases (List.forall₂_iff_zip.mpr ⟨sameLength, each⟩)]
      cases Expr.sharedPath others with
      | none =>
          -- The errors name different groups, so only their kinds agree.
          have sameKind := QueryError.kind_ambiguousPath_congr sameGroup.isOverlong_eq
          simp only [Traced.mapError, Traced.fail, Except.mapError, sameKind]
      | some path =>
          simp only [Traced.mapError_bind, compileAll_kind_eq pairs, Traced.mapError_pure]
  | andAll sameLength each same | orAny sameLength each same =>
      have pairs := List.forall₂_iff_zip.mpr ⟨sameLength, fun member => same member root⟩
      simp only [compile, Traced.mapError_bind, compileAll_kind_eq pairs, Traced.mapError_pure]
  | negation below same => simp only [compile, Traced.mapError_bind, same, Traced.mapError_pure]
  | linked link below same =>
      simp only [compile, Traced.mapError_bind]
      congr 1
      funext path
      split
      · exact same root
      · simp only [Traced.mapError_bind, same]
  | comparison operator field term => rfl
  | foreign name => rfl

/-! ## A group around a join -/

section Crossing

open LinkedQuery.Topology

/-- Some nested document has a value in one field and is joined to a document
that has none in another. -/
def inequalities : Expr :=
  .withAll
    [.comparison .ne ⟨"a.b"⟩ .null,
     .linked (joinTo 'd') (.negation (.comparison .contains ⟨"f"⟩ .matchAll))]

/-- The same with every inequality spelled another way. -/
def inequalitiesRespelled : Expr :=
  .withAll
    [.negation (.comparison .contains ⟨"a.b"⟩ .null),
     .linked (joinTo 'd') (.comparison .doesNotContain ⟨"f"⟩ .matchAll)]

theorem inequalities_aliases : inequalities.Aliases inequalitiesRespelled := by
  apply Expr.Aliases.withAll
  · rfl
  intro item other member
  rcases List.mem_cons.mp member with first | later
  · obtain ⟨rfl, rfl⟩ := Prod.mk.inj first
    exact .negated _ _ rfl rfl
  · obtain ⟨rfl, rfl⟩ := Prod.mk.inj (List.mem_singleton.mp later)
    exact .linked _ (.unnegated _ _ rfl rfl)

/-- The compiled form of both: the field without a value is negated twice. -/
def inequalitiesQuery : Dsl :=
  .nested "a"
    (.must
      [.mustNot [.mustNot [.leaf (.present "a.b")]],
       guardedAt 'B' (guardedAt 'D' (.mustNot [.leaf (.present "f")]))])

theorem compile_kind_eq_inequalities :
    inequalities.Aliases inequalitiesRespelled ∧
    ((atRest crossing).compile (about 'a') inequalities).mapError QueryError.kind =
      ((atRest crossing).compile (about 'a') inequalitiesRespelled).mapError QueryError.kind ∧
    ((atRest crossing).compile (about 'a') inequalities).outcome = .ok inequalitiesQuery ∧
    ((atRest crossing).compile (about 'a') inequalitiesRespelled).outcome =
      .ok inequalitiesQuery := by
  have sameKind :=
    compile_kind_eq_of_aliases (atRest crossing) (about 'a') _ _ inequalities_aliases
  have compiled :
      ((atRest crossing).compile (about 'a') inequalities).outcome = .ok inequalitiesQuery := by
    cbv
  refine ⟨inequalities_aliases, sameKind, compiled, ?_⟩
  have sameOutcome := congrArg Traced.outcome sameKind
  rw [Traced.outcome_mapError, Traced.outcome_mapError, compiled] at sameOutcome
  exact except_mapError_eq_ok_iff.mp sameOutcome.symm

end Crossing

end Compiler

end LinkedQuery
