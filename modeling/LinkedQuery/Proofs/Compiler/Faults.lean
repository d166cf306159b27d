import LinkedQuery.Proofs.Compiler.Compilation
import LinkedQuery.Proofs.Expr
import LinkedQuery.Proofs.QueryError

/-!
Contract: which expressions compile, and the error of those that do not.

Owns:
- the fault of a single node at its entity, whatever stands below it;
- the outcome of a compilation as the first fault among the nodes, where folds
  cannot fail;
- the same in terms of a catalog: which nodes can be translated, and which error
  belongs to each node that cannot.

Does not own: the clause of a translated node.
-/

namespace LinkedQuery

open Traversal

namespace Compiler

variable {compiler : Compiler} {root : Link} {target : Entity}

/-! ## Paths that are resolved and folded -/

/-- A path is resolved just if discovery answers within reach and joins lead to
the target. -/
theorem exists_resolvePath_iff :
    (∃ path, (compiler.resolvePath root target).outcome = .ok path) ↔
      compiler.Answered root.entity ∧ Reaches compiler.joinsOf root.entity target := by
  constructor
  · rintro ⟨path, resolved⟩
    obtain ⟨answered, first⟩ := resolvePath_eq_ok_iff.mp resolved
    exact ⟨answered, path, first.chain⟩
  · rintro ⟨answered, reached⟩
    rcases resolvePath_cases compiler root target with
      ⟨-, topology, known, agree, resolved⟩ | ⟨entity, refusal, ⟨-, path, chain, -⟩, refused, -⟩
    · rw [resolved, Topology.exists_findPath_iff known]
      obtain ⟨path, chain⟩ := reached
      refine ⟨path, (chain_congr fun entity joined => ?_).mpr chain⟩
      exact agree entity (joined.mono fun other _ => compiler.joinsOf_subset other)
    · obtain ⟨links, answer⟩ := answered entity ⟨path, chain⟩
      rw [refused] at answer
      cases answer

/-- Where discovery answers and no joins lead to the target, there is no path. -/
theorem resolvePath_of_not_reaches
    (answered : compiler.Answered root.entity)
    (unreached : ¬ Reaches compiler.joinsOf root.entity target) :
    (compiler.resolvePath root target).outcome = .error (.pathNotFound root.entity target) := by
  rcases resolvePath_cases compiler root target with
    ⟨-, topology, known, agree, resolved⟩ | ⟨entity, refusal, ⟨-, path, chain, -⟩, refused, -⟩
  · rw [resolved]
    apply Topology.findPath_of_not_reaches known
    rintro ⟨path, chain⟩
    refine unreached ⟨path, (chain_congr fun entity joined => ?_).mp chain⟩
    exact agree entity (joined.mono fun other _ => compiler.joinsOf_subset other)
  · obtain ⟨links, answer⟩ := answered entity ⟨path, chain⟩
    rw [refused] at answer
    cases answer

/-- Every resolved path can be folded around every query. -/
def Folds (compiler : Compiler) : Prop :=
  ∀ root target path query, (compiler.resolvePath root target).outcome = .ok path →
    ∃ folded, (compiler.fold path query).outcome = .ok folded

/-- A fold ends well if each of its joins does. -/
theorem exists_fold
    {path : List Link}
    (joins : ∀ hop ∈ path, ∀ query, ∃ joined, (compiler.join hop query).outcome = .ok joined)
    (query : Dsl) :
    ∃ folded, (compiler.fold path query).outcome = .ok folded := by
  induction path with
  | nil => exact ⟨query, rfl⟩
  | cons hop rest inductionHypothesis =>
      obtain ⟨hopJoins, restJoins⟩ := List.forall_mem_cons.mp joins
      obtain ⟨inner, restFolded⟩ := inductionHypothesis restJoins
      obtain ⟨folded, joined⟩ := hopJoins inner
      exact ⟨folded, fold_cons_eq_ok_iff.mpr ⟨inner, restFolded, joined⟩⟩

/-! ## The first fault -/

/-- What is wrong with a node at an entity, apart from the nodes below it. -/
def nodeFault? (compiler : Compiler) (entity : Entity) : Expr → Option QueryError
  | .withAll items =>
      match Expr.sharedPath items with
      | none => some (.ambiguousPath (.withAll items))
      | some _ => none
  | .andAll _ => none
  | .orAny _ => none
  | .negation _ => none
  | .linked link _ => errorOf? (compiler.resolvePath (.toSelf entity) link.entity).outcome
  | .comparison operator field term => errorOf? (compileComparison operator field term)
  | .foreign name => some (.unsupportedExpr (.foreign name))

/-- The first fault among nodes. -/
def firstFault? (compiler : Compiler) (nodes : List (Entity × Expr)) : Option QueryError :=
  nodes.findSome? fun node => compiler.nodeFault? node.1 node.2

theorem firstFault?_cons (entity : Entity) (node : Expr) (rest : List (Entity × Expr)) :
    compiler.firstFault? ((entity, node) :: rest) =
      (compiler.nodeFault? entity node).or (compiler.firstFault? rest) := by
  rw [firstFault?, List.findSome?_cons]
  cases compiler.nodeFault? entity node <;> rfl

theorem firstFault?_append (front back : List (Entity × Expr)) :
    compiler.firstFault? (front ++ back) =
      (compiler.firstFault? front).or (compiler.firstFault? back) :=
  List.findSome?_append

theorem exists_firstFault?_of_placedAll
    {start : Entity}
    {items : List Expr}
    {error : QueryError}
    (found : compiler.firstFault? (Expr.placedAll items start) = some error) :
    ∃ item ∈ items, compiler.firstFault? (item.placed start) = some error := by
  induction items with
  | nil => cases found
  | cons item rest inductionHypothesis =>
      rw [Expr.placedAll, firstFault?_append, Option.or_eq_some_iff] at found
      rcases found with atItem | ⟨-, atRest⟩
      · exact ⟨item, List.mem_cons_self, atItem⟩
      · obtain ⟨other, member, atOther⟩ := inductionHypothesis atRest
        exact ⟨other, List.mem_cons_of_mem _ member, atOther⟩

theorem errorOf?_compileAll
    {items : List Expr}
    (each :
      ∀ item ∈ items,
        errorOf? (compiler.compile root item).outcome =
          compiler.firstFault? (item.placed root.entity)) :
    errorOf? (compiler.compileAll root items).outcome =
      compiler.firstFault? (Expr.placedAll items root.entity) := by
  induction items with
  | nil => rfl
  | cons item rest inductionHypothesis =>
      obtain ⟨itemFault, restFault⟩ := List.forall_mem_cons.mp each
      rw [Expr.placedAll, firstFault?_append, ← itemFault, ← inductionHypothesis restFault,
        compileAll, Traced.outcome_bind]
      cases (compiler.compile root item).outcome with
      | error error => rfl
      | ok query =>
          rw [Except.bind, Traced.outcome_bind]
          cases (compiler.compileAll root rest).outcome <;> rfl

/-- Where folds cannot fail, a compilation ends in the first fault among the
nodes, each taken at its entity. -/
theorem errorOf?_compile (folds : compiler.Folds) (expr : Expr) :
    errorOf? (compiler.compile root expr).outcome =
      compiler.firstFault? (expr.placed root.entity) := by
  induction expr using Expr.induction generalizing root with
  | withAll items inductionHypothesis =>
      rw [Expr.placed, firstFault?_cons, nodeFault?, compile]
      cases shared : Expr.sharedPath items with
      | none => rfl
      | some path =>
          rw [Option.none_or,
            ← errorOf?_compileAll fun item member => inductionHypothesis item member,
            Traced.outcome_bind]
          exact errorOf?_bind_of_ok fun queries _ => ⟨_, rfl⟩
  | andAll items inductionHypothesis =>
      rw [Expr.placed, firstFault?_cons, nodeFault?, Option.none_or, compile,
        ← errorOf?_compileAll fun item member => inductionHypothesis item member,
        Traced.outcome_bind]
      exact errorOf?_bind_of_ok fun queries _ => ⟨_, rfl⟩
  | orAny items inductionHypothesis =>
      rw [Expr.placed, firstFault?_cons, nodeFault?, Option.none_or, compile,
        ← errorOf?_compileAll fun item member => inductionHypothesis item member,
        Traced.outcome_bind]
      exact errorOf?_bind_of_ok fun queries _ => ⟨_, rfl⟩
  | negation child inductionHypothesis =>
      rw [Expr.placed, firstFault?_cons, nodeFault?, Option.none_or, compile,
        ← inductionHypothesis, Traced.outcome_bind]
      exact errorOf?_bind_of_ok fun query _ => ⟨_, rfl⟩
  | linked link child inductionHypothesis =>
      have childFault := @inductionHypothesis (.toSelf link.entity)
      rw [Link.entity_toSelf] at childFault
      rw [Expr.placed, firstFault?_cons, nodeFault?, resolvePath_toSelf, compile_linked_outcome,
        ← childFault]
      cases resolved : (compiler.resolvePath root link.entity).outcome with
      | error error => rfl
      | ok path =>
          rw [errorOf?_ok, Option.none_or, Except.bind]
          exact errorOf?_bind_of_ok fun query _ => folds root link.entity path query resolved
  | comparison operator field term =>
      rw [Expr.placed, firstFault?_cons, nodeFault?, compile, Traced.outcome_lift]
      exact (Option.or_none).symm
  | foreign name => rfl

end Compiler

/-! ## Nodes over a catalog -/

namespace Catalog

/-- Every entity that declared links lead to from a root is declared. -/
def Covers (catalog : Catalog) (root : Entity) : Prop :=
  ∀ entity, Reaches catalog.declaredLinks root entity → catalog.declares entity = true

/-- Whether a node can be translated at an entity, whatever stands below it: a
group shares a nested path; a link leads, over declared joins, to an entity that
they reach (the entity itself is one of them), and all that is within reach is
declared; a comparison has an operator with a counterpart and a term that can be
encoded for it. -/
def Translates (catalog : Catalog) (entity : Entity) : Expr → Prop
  | .withAll items => ∃ path, Expr.SharesPath items path
  | .andAll _ => True
  | .orAny _ => True
  | .negation _ => True
  | .linked link _ => catalog.Covers entity ∧ Reaches catalog.declaredJoins entity link.entity
  | .comparison operator field term =>
      operator ≠ .moreLikeThis ∧ operator ≠ .fuzzyLikeThis ∧
        ∃ query, Dsl.encode operator field term = .ok query
  | .foreign _ => False

/-- The error that belongs to a node which cannot be translated at an entity. -/
inductive Breaks (catalog : Catalog) (entity : Entity) : Expr → QueryError → Prop
  | group {items : List Expr} :
      (∀ path, ¬ Expr.SharesPath items path) →
      Breaks catalog entity (.withAll items) (.ambiguousPath (.withAll items))
  | undeclared {link : Link} {child : Expr} {missing : Entity} :
      FirstMet catalog.declaredLinks entity (fun other => catalog.declares other = false)
        missing →
      Breaks catalog entity (.linked link child)
        (.lookupFailed .topology (.missing ("Unknown index: " ++ missing.text)))
  | unreached {link : Link} {child : Expr} :
      catalog.Covers entity →
      ¬ Reaches catalog.declaredJoins entity link.entity →
      Breaks catalog entity (.linked link child) (.pathNotFound entity link.entity)
  | similarity {operator : Operator} {field : Field} {term : Term} :
      operator = .moreLikeThis ∨ operator = .fuzzyLikeThis →
      Breaks catalog entity (.comparison operator field term)
        (.unsupportedExpr (.comparison operator field term))
  | term {operator : Operator} {field : Field} {term : Term} {error : QueryError} :
      operator ≠ .moreLikeThis →
      operator ≠ .fuzzyLikeThis →
      Dsl.encode operator field term = .error error →
      Breaks catalog entity (.comparison operator field term) error
  | foreign {name : String} :
      Breaks catalog entity (.foreign name) (.unsupportedExpr (.foreign name))

end Catalog

namespace Compiler

variable {compiler : Compiler} {catalog : Catalog} {root : Link} {entity : Entity}
  {error : QueryError}

theorem compileComparison_of_encodable
    {operator : Operator}
    (notSimilar : operator ≠ .moreLikeThis)
    (notFuzzy : operator ≠ .fuzzyLikeThis)
    (field : Field)
    (term : Term) :
    compileComparison operator field term = Dsl.encode operator field term := by
  cases operator with
  | moreLikeThis => exact absurd rfl notSimilar
  | fuzzyLikeThis => exact absurd rfl notFuzzy
  | contains | eq | doesNotContain | ne | regex | gt | gte | lt | lte =>
      simp only [compileComparison]

section OverCatalog

variable (overCatalog : compiler.Over catalog)

include overCatalog

theorem Over.joinsOf_eq : compiler.joinsOf = catalog.declaredJoins := by
  funext entity
  rw [joinsOf, overCatalog.linksOf_eq, Catalog.declaredJoins]

theorem Over.answered_iff : compiler.Answered root.entity ↔ catalog.Covers root.entity := by
  unfold Answered Catalog.Covers
  rw [overCatalog.linksOf_eq]
  refine forall₂_congr fun entity _ => ?_
  cases declared : catalog.declares entity with
  | true => simp [overCatalog.discover_of_declares declared]
  | false => simp [overCatalog.discover_of_not_declares declared]

/-- Over a catalog, a path is resolved just to the entities that joins reach,
and only where everything within reach is declared. -/
theorem Over.errorOf?_resolvePath_eq_none_iff {target : Entity} :
    errorOf? (compiler.resolvePath root target).outcome = none ↔
      catalog.Covers root.entity ∧ Reaches catalog.declaredJoins root.entity target := by
  rw [errorOf?_eq_none_iff, exists_resolvePath_iff, overCatalog.answered_iff,
    overCatalog.joinsOf_eq]

/-- Over a catalog that leaves something within reach undeclared, a resolution
fails with the entity that discovery meets first. -/
theorem Over.resolvePath_of_firstMet
    {missing target : Entity}
    (first :
      FirstMet catalog.declaredLinks root.entity (fun other => catalog.declares other = false)
        missing) :
    (compiler.resolvePath root target).outcome =
      .error (.lookupFailed .topology (.missing ("Unknown index: " ++ missing.text))) := by
  rcases resolvePath_cases compiler root target with
    ⟨answered, -⟩ | ⟨refusedEntity, refusal, refusedFirst, refused, failed⟩
  · obtain ⟨undeclared, path, chain, -⟩ := first
    have declared := overCatalog.answered_iff.mp answered missing ⟨path, chain⟩
    rw [undeclared] at declared
    cases declared
  · simp only [overCatalog.linksOf_eq, overCatalog.refused_iff] at refusedFirst
    obtain rfl := first.unique refusedFirst
    rw [overCatalog.discover_of_not_declares first.1] at refused
    rw [failed, ← Except.error.inj refused]
    rfl

theorem Over.errorOf?_resolvePath_eq_some_iff {link : Link} {child : Expr} :
    errorOf? (compiler.resolvePath root link.entity).outcome = some error ↔
      catalog.Breaks root.entity (.linked link child) error := by
  rw [errorOf?_eq_some_iff]
  constructor
  · intro failed
    rcases resolvePath_cases compiler root link.entity with
      ⟨answered, -⟩ | ⟨missing, refusal, first, -⟩
    · have covers := overCatalog.answered_iff.mp answered
      have unreached : ¬ Reaches catalog.declaredJoins root.entity link.entity := by
        intro reached
        have resolved := overCatalog.errorOf?_resolvePath_eq_none_iff.mpr ⟨covers, reached⟩
        rw [failed] at resolved
        cases resolved
      rw [← overCatalog.joinsOf_eq] at unreached
      rw [resolvePath_of_not_reaches answered unreached] at failed
      obtain rfl := Except.error.inj failed
      rw [overCatalog.joinsOf_eq] at unreached
      exact .unreached covers unreached
    · simp only [overCatalog.linksOf_eq, overCatalog.refused_iff] at first
      rw [overCatalog.resolvePath_of_firstMet first] at failed
      obtain rfl := Except.error.inj failed
      exact .undeclared first
  · intro breaks
    cases breaks with
    | undeclared first => exact overCatalog.resolvePath_of_firstMet first
    | unreached covers unreached =>
        rw [← overCatalog.joinsOf_eq] at unreached
        exact resolvePath_of_not_reaches (overCatalog.answered_iff.mpr covers) unreached

/-- Over a catalog that gives every filter, folds cannot fail: the entities on a
path are within reach of discovery, so they are declared. -/
theorem Over.folds
    (filters : ∀ index type, ∃ clause, compiler.visibility index type = .ok clause) :
    compiler.Folds := by
  intro root target path query resolved
  obtain ⟨answered, -⟩ := resolvePath_eq_ok_iff.mp resolved
  refine exists_fold (fun hop member query => ?_) query
  have reached : Reaches catalog.declaredLinks root.entity hop.entity := by
    rw [← overCatalog.linksOf_eq]
    exact reaches_of_mem_path resolved member
  obtain ⟨options, found⟩ :=
    Catalog.declares_iff.mp (overCatalog.answered_iff.mp answered hop.entity reached)
  have optionsFound : compiler.resolve hop.entity = .ok options := by
    rw [overCatalog.resolve, Catalog.resolve_of_find? found]
    rfl
  obtain ⟨clause, built⟩ := filters options.backendName (compiler.typeOf options)
  cases ignored : compiler.ignoreVisibility with
  | true =>
      exact ⟨_, join_eq_ok_iff.mpr
        ⟨options, _, optionsFound, filter_eq_ok_iff.mpr (.inl ⟨ignored, rfl⟩), rfl⟩⟩
  | false =>
      exact ⟨_, join_eq_ok_iff.mpr
        ⟨options, _, optionsFound, filter_eq_ok_iff.mpr (.inr ⟨ignored, clause, built, rfl⟩), rfl⟩⟩

theorem Over.nodeFault?_eq_none_iff (node : Expr) :
    compiler.nodeFault? entity node = none ↔ catalog.Translates entity node := by
  cases node with
  | withAll items =>
      simp only [nodeFault?, Catalog.Translates, ← Expr.sharedPath_eq_some_iff]
      cases Expr.sharedPath items <;> simp
  | andAll | orAny | negation => simp [nodeFault?, Catalog.Translates]
  | linked link child => exact overCatalog.errorOf?_resolvePath_eq_none_iff
  | comparison operator field term =>
      rw [nodeFault?, Catalog.Translates, errorOf?_eq_none_iff]
      by_cases similar : operator = .moreLikeThis
      · subst similar
        simp [compileComparison]
      by_cases fuzzy : operator = .fuzzyLikeThis
      · subst fuzzy
        simp [compileComparison]
      simp [compileComparison_of_encodable similar fuzzy, similar, fuzzy]
  | foreign name => simp [nodeFault?, Catalog.Translates]

theorem Over.nodeFault?_eq_some_iff (node : Expr) :
    compiler.nodeFault? entity node = some error ↔ catalog.Breaks entity node error := by
  cases node with
  | withAll items =>
      rw [nodeFault?]
      cases shared : Expr.sharedPath items with
      | none =>
          have unshared : ∀ path, ¬ Expr.SharesPath items path := by
            intro path shares
            rw [Expr.sharedPath_eq_some_iff.mpr shares] at shared
            cases shared
          constructor
          · rintro ⟨⟩
            exact .group unshared
          · rintro ⟨⟩
            rfl
      | some path =>
          constructor
          · rintro ⟨⟩
          · rintro ⟨unshared⟩
            exact absurd (Expr.sharedPath_eq_some_iff.mp shared) (unshared path)
  | andAll | orAny | negation =>
      constructor
      · rintro ⟨⟩
      · rintro ⟨⟩
  | linked link child => exact overCatalog.errorOf?_resolvePath_eq_some_iff
  | comparison operator field term =>
      rw [nodeFault?, errorOf?_eq_some_iff]
      constructor
      · intro failed
        by_cases similar : operator = .moreLikeThis ∨ operator = .fuzzyLikeThis
        · rcases similar with rfl | rfl
          · obtain rfl := Except.error.inj failed
            exact .similarity (.inl rfl)
          · obtain rfl := Except.error.inj failed
            exact .similarity (.inr rfl)
        · obtain ⟨notSimilar, notFuzzy⟩ := not_or.mp similar
          rw [compileComparison_of_encodable notSimilar notFuzzy] at failed
          exact .term notSimilar notFuzzy failed
      · intro breaks
        cases breaks with
        | similarity similar =>
            rcases similar with rfl | rfl
            · rfl
            · rfl
        | term notSimilar notFuzzy failed =>
            rw [compileComparison_of_encodable notSimilar notFuzzy, failed]
  | foreign name =>
      constructor
      · rintro ⟨⟩
        exact .foreign
      · rintro ⟨⟩
        rfl

end OverCatalog

/-- Over a catalog and a snapshot, just those expressions compile whose nodes can
all be translated at their entities; otherwise the error is that of the first
node, parents before children and children from left to right, that cannot. -/
theorem compile_ofCatalog_iff
    (catalog : Catalog)
    (snapshot : Snapshot)
    (ignoreVisibility : Bool)
    (docType : Text)
    (root : Link)
    (expr : Expr) :
    ((∃ query,
        ((ofCatalog catalog snapshot ignoreVisibility docType).compile root expr).outcome =
          .ok query) ↔
      ∀ node ∈ expr.placed root.entity, catalog.Translates node.1 node.2) ∧
    ∀ error,
      ((ofCatalog catalog snapshot ignoreVisibility docType).compile root expr).outcome =
          .error error ↔
        ∃ front entity node back,
          expr.placed root.entity = front ++ (entity, node) :: back ∧
          (∀ earlier ∈ front, catalog.Translates earlier.1 earlier.2) ∧
          ¬ catalog.Translates entity node ∧
          catalog.Breaks entity node error := by
  have overCatalog := over_ofCatalog catalog snapshot ignoreVisibility docType
  have folds := overCatalog.folds fun index type => ⟨_, rfl⟩
  constructor
  · rw [← errorOf?_eq_none_iff, errorOf?_compile folds, firstFault?, List.findSome?_eq_none_iff]
    simp only [overCatalog.nodeFault?_eq_none_iff]
  · intro error
    rw [← errorOf?_eq_some_iff, errorOf?_compile folds, firstFault?,
      List.findSome?_eq_some_iff]
    simp only [overCatalog.nodeFault?_eq_none_iff, overCatalog.nodeFault?_eq_some_iff]
    constructor
    · rintro ⟨front, ⟨entity, node⟩, back, split, breaks, sound⟩
      refine ⟨front, entity, node, back, split, sound, ?_, breaks⟩
      rw [← overCatalog.nodeFault?_eq_none_iff,
        (overCatalog.nodeFault?_eq_some_iff node).mpr breaks]
      simp
    · rintro ⟨front, entity, node, back, split, sound, -, breaks⟩
      exact ⟨front, (entity, node), back, split, breaks, sound⟩

/-- A bound by a fuzzy text, whose distance has too many digits to be written. -/
def overlongBound : Expr :=
  .comparison .gt ⟨"f"⟩ (.fuzzy "x" (Nat.pow 10 maxDigits) none)

/-- The error of a node is not shown where the node holds a distance that is too
long: the fault of writing that distance takes its place. -/
theorem compile_overlongBound :
    ∃ error,
      ((atRest crossing).compile (about 'a') overlongBound).outcome = .error error ∧
      crossing.Breaks (Topology.lettered 'a') overlongBound error ∧
      error.message = OverlongInteger.written.message ∧
      error.message ≠ error.wording := by
  have overlong :
      (QueryError.termMismatch .gt (.fuzzy "x" (Nat.pow 10 maxDigits) none)).isOverlong =
        true := by
    rw [QueryError.isOverlong, Term.isOverlong]
    exact isOverlong_natCast_iff.mpr (Nat.le_refl _)
  exact ⟨_, rfl, .term (by decide) (by decide) rfl, QueryError.message_of_isOverlong overlong,
    QueryError.message_ne_wording rfl overlong⟩

end Compiler

end LinkedQuery
