import LinkedQuery.Proofs.Compiler.Aliases
import LinkedQuery.Proofs.Dsl

/-!
Contract: what a compilation takes from the links of a query.

Owns:
- expressions with bare links, each of which names an entity and nothing else;
- the compilations of expressions that are equal but for the labels of their
  links: one trail of events and one query, or errors of one kind;
- the joins of a compiled query: one for each hop of the paths that its links
  resolve to, with the fields of that hop, which discovery answered.

Does not own: which path a link resolves to.
-/

namespace LinkedQuery

/-! ## Expressions without labels -/

namespace Expr

mutual

/-- An expression in which every link keeps its entity and loses its name and
its fields. -/
def bare : Expr → Expr
  | .withAll items => .withAll (bareAll items)
  | .andAll items => .andAll (bareAll items)
  | .orAny items => .orAny (bareAll items)
  | .negation child => .negation (bare child)
  | .linked link child => .linked (.toSelf link.entity) (bare child)
  | .comparison operator field term => .comparison operator field term
  | .foreign name => .foreign name

/-- Several expressions with bare links. -/
def bareAll : List Expr → List Expr
  | [] => []
  | expr :: rest => bare expr :: bareAll rest

end

theorem bareAll_eq_map (items : List Expr) : bareAll items = items.map bare := by
  induction items with
  | nil => rfl
  | cons item rest inductionHypothesis => rw [bareAll, inductionHypothesis, List.map_cons]

/-- Labels lie on links, so the nested paths of an expression do not show them. -/
theorem ownPaths_bare (expr : Expr) : expr.bare.ownPaths = expr.ownPaths := by
  induction expr using induction with
  | withAll items same | andAll items same | orAny items same =>
      rw [bare, ownPaths, ownPaths, bareAll_eq_map, ownPathsAll_eq_flatten,
        ownPathsAll_eq_flatten, List.map_map]
      exact congrArg List.flatten (List.map_congr_left same)
  | negation child same => rw [bare, ownPaths, ownPaths, same]
  | linked | comparison | foreign => rfl

theorem sharedPath_bareAll (items : List Expr) : sharedPath (bareAll items) = sharedPath items := by
  have samePaths : ownPathsAll (bareAll items) = ownPathsAll items := by
    rw [bareAll_eq_map, ownPathsAll_eq_flatten, ownPathsAll_eq_flatten, List.map_map]
    exact congrArg List.flatten (List.map_congr_left fun item _ => item.ownPaths_bare)
  exact sharedPath_congr fun path => by rw [samePaths]

theorem isOverlong_bare (expr : Expr) : expr.bare.isOverlong = expr.isOverlong := by
  induction expr using induction with
  | withAll items same | andAll items same | orAny items same =>
      rw [bare, isOverlong_eq_any_children rfl, isOverlong_eq_any_children rfl, children, children,
        bareAll_eq_map, List.map_map]
      exact congrArg (List.any · id) (List.map_congr_left same)
  | negation child same | linked link child same =>
      rw [bare, isOverlong_eq_any_children rfl, isOverlong_eq_any_children rfl, children, children,
        List.map_singleton, List.map_singleton, same]
  | comparison | foreign => rfl

end Expr

namespace Compiler

variable {compiler : Compiler} {root : Link} {query : Dsl}

/-- Labels of links are never looked at: without them the same events lead to the
same query, or to an error of the same kind. -/
theorem compile_bare (compiler : Compiler) (root : Link) (expr : Expr) :
    (compiler.compile root expr.bare).mapError QueryError.kind =
      (compiler.compile root expr).mapError QueryError.kind := by
  have sameItems :
      ∀ (root : Link) (items : List Expr),
        (∀ item ∈ items, ∀ root,
          (compiler.compile root item.bare).mapError QueryError.kind =
            (compiler.compile root item).mapError QueryError.kind) →
        (compiler.compileAll root (Expr.bareAll items)).mapError QueryError.kind =
          (compiler.compileAll root items).mapError QueryError.kind := by
    intro root items same
    rw [Expr.bareAll_eq_map]
    apply compileAll_kind_eq
    rw [List.forall₂_map_left_iff, List.forall₂_same]
    exact fun item member => same item member root
  induction expr using Expr.induction generalizing root with
  | withAll items same =>
      rw [Expr.bare, compile, compile, Expr.sharedPath_bareAll]
      cases Expr.sharedPath items with
      | none =>
          -- The error names the group with its links, so only its kind is the same.
          have sameKind :=
            QueryError.kind_ambiguousPath_congr (Expr.isOverlong_bare (.withAll items))
          rw [Expr.bare] at sameKind
          simp only [Traced.mapError, Traced.fail, Except.mapError, sameKind]
      | some path =>
          simp only [Traced.mapError_bind, sameItems root items same, Traced.mapError_pure]
  | andAll items same | orAny items same =>
      simp only [Expr.bare, compile, Traced.mapError_bind, sameItems root items same,
        Traced.mapError_pure]
  | negation child same =>
      simp only [Expr.bare, compile, Traced.mapError_bind, same, Traced.mapError_pure]
  | linked link child same =>
      simp only [Expr.bare, compile, Link.toSelf, Traced.mapError_bind]
      congr 1
      funext path
      split
      · exact same root
      · simp only [Traced.mapError_bind, same]
  | comparison operator field term => rfl
  | foreign name => rfl

/-! ## The joins of a compiled query -/

/-- The hops that a node at an entity is folded along: those of the path that its
link resolves to. -/
def hopsAt (compiler : Compiler) (entity : Entity) : Expr → List Link
  | .linked link _ =>
      match (compiler.resolvePath (.toSelf entity) link.entity).outcome with
      | .ok path => path
      | .error _ => []
  | _ => []

/-- The hops of all nodes of an expression about a root, parents before
children. -/
def hops (compiler : Compiler) (root : Entity) (expr : Expr) : List Link :=
  (expr.placed root).flatMap fun node => compiler.hopsAt node.1 node.2

/-- A subselect joins along a hop: it is on the index of the entity that the hop
leads to, and its fields are those of the hop. -/
structure Follows (compiler : Compiler) (hop : Link) (join : Subselect) : Prop where
  index :
    ∃ options,
      compiler.resolve hop.entity = .ok options ∧
      join.index = options.backendName ∧
      join.type = compiler.typeOf options
  left : join.left = hop.left
  right : join.right = hop.right

/-- A link is declared: discovery answers it for some entity. -/
def DeclaresLink (compiler : Compiler) (link : Link) : Prop :=
  ∃ source links, compiler.discover source = .ok links ∧ link ∈ links

theorem hops_eq (compiler : Compiler) (root : Entity) (expr : Expr) :
    compiler.hops root expr =
      compiler.hopsAt root expr ++
        expr.children.flatMap (compiler.hops (expr.entityBelow root)) := by
  have below :
      ∀ (items : List Expr) (entity : Entity),
        (Expr.placedAll items entity).flatMap (fun node => compiler.hopsAt node.1 node.2) =
          items.flatMap (compiler.hops entity) := by
    intro items entity
    induction items with
    | nil => rfl
    | cons item rest inductionHypothesis =>
        rw [Expr.placedAll, List.flatMap_append, inductionHypothesis, List.flatMap_cons, hops]
  rw [hops, Expr.placed_eq_cons, List.flatMap_cons, below]

theorem follows_fold
    {path : List Link}
    {folded : Dsl}
    (ended : (compiler.fold path query).outcome = .ok folded) :
    ∃ joins, List.Forall₂ compiler.Follows path joins ∧
      folded.subselects = joins ++ query.subselects := by
  induction path generalizing folded with
  | nil =>
      obtain rfl := Except.ok.inj ended
      exact ⟨[], .nil, rfl⟩
  | cons hop rest inductionHypothesis =>
      obtain ⟨inner, restFolded, joined⟩ := fold_cons_eq_ok_iff.mp ended
      obtain ⟨joins, follow, same⟩ := inductionHypothesis restFolded
      obtain ⟨options, wrapped, found, filtered, rfl⟩ := join_eq_ok_iff.mp joined
      -- A filter stands beside the query and adds no join to it.
      have unchanged : wrapped.subselects = inner.subselects := by
        rcases filter_eq_ok_iff.mp filtered with ⟨-, rfl⟩ | ⟨-, clause, -, rfl⟩
        · rfl
        · rw [Dsl.subselects]
      rw [Dsl.subselects, unchanged, same, ← List.cons_append]
      exact ⟨_, .cons ⟨⟨options, found, rfl, rfl⟩, rfl, rfl⟩ follow, rfl⟩

theorem follows_compileAll
    {items : List Expr}
    {queries : List Dsl}
    (compiled :
      List.Forall₂ (fun item query => (compiler.compile root item).outcome = .ok query)
        items queries)
    (each :
      ∀ item ∈ items, ∀ query, (compiler.compile root item).outcome = .ok query →
        List.Forall₂ compiler.Follows (compiler.hops root.entity item) query.subselects) :
    List.Forall₂ compiler.Follows (items.flatMap (compiler.hops root.entity))
      (Dsl.subselectsOfAll queries) := by
  induction compiled with
  | nil => exact .nil
  | cons itemCompiled _ inductionHypothesis =>
      obtain ⟨itemFollows, restFollow⟩ := List.forall_mem_cons.mp each
      rw [List.flatMap_cons, Dsl.subselectsOfAll]
      exact List.rel_append (itemFollows _ itemCompiled) (inductionHypothesis restFollow)

/-- The joins of a compiled query are, one by one, those along the hops of the
expression. -/
theorem follows_compile
    {expr : Expr}
    (compiled : (compiler.compile root expr).outcome = .ok query) :
    List.Forall₂ compiler.Follows (compiler.hops root.entity expr) query.subselects := by
  induction expr using Expr.induction generalizing root query with
  | withAll items inductionHypothesis =>
      obtain ⟨path, queries, -, all, rfl⟩ := compile_withAll_eq_ok_iff.mp compiled
      rw [hops_eq, Dsl.subselects, Dsl.subselects]
      exact follows_compileAll all fun item member _ => inductionHypothesis item member
  | andAll items inductionHypothesis =>
      obtain ⟨queries, all, rfl⟩ := compile_andAll_eq_ok_iff.mp compiled
      rw [hops_eq, Dsl.subselects]
      exact follows_compileAll all fun item member _ => inductionHypothesis item member
  | orAny items inductionHypothesis =>
      obtain ⟨queries, all, rfl⟩ := compile_orAny_eq_ok_iff.mp compiled
      rw [hops_eq, Dsl.subselects]
      exact follows_compileAll all fun item member _ => inductionHypothesis item member
  | negation child inductionHypothesis =>
      obtain ⟨inner, childCompiled, rfl⟩ := compile_negation_eq_ok_iff.mp compiled
      rw [hops_eq, Expr.children, List.flatMap_singleton, Dsl.subselects, Dsl.subselectsOfAll,
        Dsl.subselectsOfAll, List.append_nil]
      exact inductionHypothesis childCompiled
  | linked link child inductionHypothesis =>
      obtain ⟨path, inner, resolved, childCompiled, folded⟩ := compile_linked_eq_ok_iff.mp compiled
      obtain ⟨joins, follow, same⟩ := follows_fold folded
      have ofChild := inductionHypothesis childCompiled
      rw [hops_eq, Expr.children, List.flatMap_singleton, hopsAt, resolvePath_toSelf, resolved,
        same]
      exact List.rel_append follow ofChild
  | comparison operator field term =>
      rw [compile, Traced.outcome_lift] at compiled
      rw [Dsl.subselects_encode (encode_of_compileComparison compiled)]
      exact .nil
  | foreign name =>
      rw [compile] at compiled
      cases compiled

theorem declaresLink_of_mem_linksOf
    {source : Entity}
    {link : Link}
    (member : link ∈ compiler.linksOf source) :
    compiler.DeclaresLink link := by
  cases answer : compiler.discover source with
  | error refusal => simp [linksOf, answer] at member
  | ok links =>
      rw [linksOf_of_ok answer] at member
      exact ⟨source, links, answer, member⟩

/-- The hops of an expression are declared links. -/
theorem declaresLink_of_mem_hops
    {expr : Expr}
    {hop : Link}
    (member : hop ∈ compiler.hops root.entity expr) :
    compiler.DeclaresLink hop := by
  obtain ⟨⟨entity, node⟩, -, atNode⟩ := List.mem_flatMap.mp member
  cases node with
  | linked link child =>
      simp only [hopsAt] at atNode
      cases resolved : (compiler.resolvePath (.toSelf entity) link.entity).outcome with
      | error error =>
          rw [resolved] at atNode
          cases atNode
      | ok path =>
          rw [resolved] at atNode
          obtain ⟨-, first⟩ := resolvePath_eq_ok_iff.mp resolved
          obtain ⟨source, isJoin⟩ := first.chain.exists_source atNode
          exact declaresLink_of_mem_linksOf (compiler.joinsOf_subset source isJoin)
  | withAll | andAll | orAny | negation | comparison | foreign => cases atNode

/-- Of the links that a query names, and of the link that names its root, only
the entities matter: whatever their labels are, the same events lead to the same
query, or to errors of the same kind. The joins of the query are those along the
resolved paths, with the fields of the declared links there. -/
theorem compile_kind_eq_of_targets
    (compiler : Compiler)
    (root otherRoot : Link)
    (sameRoot : root.entity = otherRoot.entity)
    (expr other : Expr)
    (sameTargets : expr.bare = other.bare) :
    (compiler.compile root expr).mapError QueryError.kind =
      (compiler.compile otherRoot other).mapError QueryError.kind ∧
    ∀ query, (compiler.compile root expr).outcome = .ok query →
      List.Forall₂ compiler.Follows (compiler.hops root.entity expr) query.subselects ∧
      ∀ hop ∈ compiler.hops root.entity expr, compiler.DeclaresLink hop := by
  constructor
  · rw [← compile_bare, ← compile_toSelf, sameRoot, compile_toSelf, sameTargets, compile_bare]
  · intro query compiled
    exact ⟨follows_compile compiled, fun hop member => declaresLink_of_mem_hops member⟩

/-! ## Two queries with links of their own -/

section Crossing

open LinkedQuery.Topology

/-- A link to an entity named by one letter, with fields that no catalog
declares. -/
def strayLink (letter : Char) : Link :=
  ⟨some "x", some "y", lettered letter, none⟩

/-- The join to `d` and, from there, to `a`, by stray links. -/
def strayed : Expr :=
  .linked (strayLink 'd') (.linked (strayLink 'a') (.comparison .contains ⟨"f"⟩ .matchAll))

/-- The same joins by links to the entities themselves. -/
def unlabelled : Expr :=
  .linked (.toSelf (lettered 'd'))
    (.linked (.toSelf (lettered 'a')) (.comparison .contains ⟨"f"⟩ .matchAll))

-- The paths are those of the catalog, and so are the fields of the joins.
example :
    (atRest crossing).hops (lettered 'a') strayed = [joinTo 'b', joinTo 'd', joinTo 'a'] := by
  cbv

/-- The compiled form of both, from any link that leads to `a`. -/
def strayedQuery : Dsl :=
  guardedAt 'B' (guardedAt 'D' (guardedAt 'A' (.leaf (.present "f"))))

theorem compile_kind_eq_strayed :
    (strayLink 'a').entity = (about 'a').entity ∧
    strayed.bare = unlabelled.bare ∧
    ((atRest crossing).compile (strayLink 'a') strayed).mapError QueryError.kind =
      ((atRest crossing).compile (about 'a') unlabelled).mapError QueryError.kind ∧
    ((atRest crossing).compile (strayLink 'a') strayed).outcome = .ok strayedQuery ∧
    List.Forall₂ (atRest crossing).Follows ((atRest crossing).hops (lettered 'a') strayed)
      strayedQuery.subselects ∧
    ∀ hop ∈ (atRest crossing).hops (lettered 'a') strayed, (atRest crossing).DeclaresLink hop := by
  obtain ⟨sameKind, joins⟩ :=
    compile_kind_eq_of_targets (atRest crossing) (strayLink 'a') (about 'a') rfl strayed unlabelled
      rfl
  have compiled :
      ((atRest crossing).compile (strayLink 'a') strayed).outcome = .ok strayedQuery := by
    cbv
  exact ⟨rfl, rfl, sameKind, compiled, joins _ compiled⟩

end Crossing

end Compiler

end LinkedQuery
