import LinkedQuery.Proofs.Compiler.Compilation
import LinkedQuery.Proofs.Expr
import Mathlib

/-!
Contract: how much of its collaborators a compilation depends on.

Owns:
- two compilers whose collaborators agree within reach of a root;
- the same paths, joins and queries under both, at every depth;
- the compiler for a single root, to which nothing is lost there;
- catalogs that declare the same within reach, whatever else they declare and
  in whatever order.

Does not own: the events on the way, which name entities in the order of
discovery.
-/

namespace LinkedQuery

open Traversal

namespace Compiler

variable {compiler other : Compiler} {root : Link}

/-- Two compilers have the same settings, and their collaborators answer the
same for every entity within reach of a root. -/
structure AgreeFrom (compiler other : Compiler) (root : Entity) : Prop where
  discover :
    ∀ entity, Reaches compiler.linksOf root entity →
      other.discover entity = compiler.discover entity
  resolve :
    ∀ entity, Reaches compiler.linksOf root entity →
      other.resolve entity = compiler.resolve entity
  visibility : other.visibility = compiler.visibility
  ignoreVisibility : other.ignoreVisibility = compiler.ignoreVisibility
  docType : other.docType = compiler.docType

namespace AgreeFrom

variable (agree : compiler.AgreeFrom other root.entity)

include agree

theorem linksOf
    (entity : Entity)
    (reached : Reaches compiler.linksOf root.entity entity) :
    other.linksOf entity = compiler.linksOf entity := by
  unfold Compiler.linksOf
  rw [agree.discover entity reached]

theorem reaches_iff {target : Entity} :
    Reaches other.linksOf root.entity target ↔ Reaches compiler.linksOf root.entity target := by
  constructor
  · intro reached
    obtain ⟨path, chain⟩ := reached
    exact ⟨path, (chain_congr agree.linksOf).mp chain⟩
  · intro reached
    obtain ⟨path, chain⟩ := reached
    exact ⟨path, (chain_congr agree.linksOf).mpr chain⟩

/-- What is within reach of an entity within reach of the root is within reach
of the root. -/
theorem of_reaches
    {entity : Entity}
    (reached : Reaches compiler.linksOf root.entity entity) :
    compiler.AgreeFrom other entity := by
  have further :
      ∀ later, Reaches compiler.linksOf entity later →
        Reaches compiler.linksOf root.entity later := by
    intro later laterReached
    obtain ⟨front, frontChain⟩ := reached
    obtain ⟨back, backChain⟩ := laterReached
    exact ⟨front ++ back, frontChain.append backChain⟩
  exact
    { discover := fun later laterReached => agree.discover later (further later laterReached)
      resolve := fun later laterReached => agree.resolve later (further later laterReached)
      visibility := agree.visibility
      ignoreVisibility := agree.ignoreVisibility
      docType := agree.docType }

/-! ## Paths -/

/-- Both compilers resolve the same path, or fail for the same reason. -/
theorem resolvePath_outcome_eq (target : Entity) :
    (other.resolvePath root target).outcome = (compiler.resolvePath root target).outcome := by
  rcases resolvePath_cases compiler root target with
    ⟨answered, topology, known, sameJoins, resolved⟩ |
    ⟨missing, refusal, first, refused, failed⟩
  · rw [resolved]
    -- The topology that one compiler surveyed serves the other as well.
    have otherAnswered : other.Answered root.entity := by
      intro entity reached
      have ownReached := agree.reaches_iff.mp reached
      rw [agree.discover entity ownReached]
      exact answered entity ownReached
    apply resolvePath_eq_findPath otherAnswered known
    intro entity reached
    have ownReached := agree.reaches_iff.mp reached
    unfold joinsOf
    rw [sameJoins entity ownReached, joinsOf, agree.linksOf entity ownReached]
  · rw [failed]
    obtain ⟨-, path, chain, -⟩ := id first
    rcases resolvePath_cases other root target with
      ⟨otherAnswered, -⟩ | ⟨otherMissing, otherRefusal, otherFirst, otherRefused, otherFailed⟩
    · obtain ⟨links, answer⟩ := otherAnswered missing (agree.reaches_iff.mpr ⟨path, chain⟩)
      rw [agree.discover missing ⟨path, chain⟩, refused] at answer
      cases answer
    · have sameRefusals :
          ∀ entity, Reaches compiler.linksOf root.entity entity →
            ((∃ cause, other.discover entity = .error cause) ↔
              ∃ cause, compiler.discover entity = .error cause) := by
        intro entity reached
        rw [agree.discover entity reached]
      obtain rfl := first.unique (firstMet_congr agree.linksOf sameRefusals otherFirst)
      rw [agree.discover missing ⟨path, chain⟩, refused] at otherRefused
      rw [otherFailed, Except.error.inj otherRefused]

/-! ## Joins -/

theorem join_eq
    {hop : Link}
    (reached : Reaches compiler.linksOf root.entity hop.entity)
    (query : Dsl) :
    other.join hop query = compiler.join hop query := by
  have sameType : other.typeOf = compiler.typeOf := by
    funext options
    unfold typeOf
    rw [agree.docType]
  have sameFilter : other.filter = compiler.filter := by
    funext index type inner
    unfold filter
    rw [agree.ignoreVisibility, agree.visibility]
  unfold join
  rw [agree.resolve hop.entity reached, sameType, sameFilter]

theorem fold_eq
    {path : List Link}
    (within : ∀ hop ∈ path, Reaches compiler.linksOf root.entity hop.entity)
    (query : Dsl) :
    other.fold path query = compiler.fold path query := by
  induction path with
  | nil => rfl
  | cons hop rest inductionHypothesis =>
      obtain ⟨hopWithin, restWithin⟩ := List.forall_mem_cons.mp within
      have sameJoin : other.join hop = compiler.join hop := by
        funext inner
        exact agree.join_eq hopWithin inner
      unfold fold
      rw [inductionHypothesis restWithin, sameJoin]

/-! ## Queries -/

omit agree in
theorem compileAll_outcome_eq
    {items : List Expr}
    (same :
      ∀ item ∈ items, (other.compile root item).outcome = (compiler.compile root item).outcome) :
    (other.compileAll root items).outcome = (compiler.compileAll root items).outcome := by
  induction items with
  | nil => simp only [compileAll]
  | cons item rest inductionHypothesis =>
      obtain ⟨sameItem, sameRest⟩ := List.forall_mem_cons.mp same
      simp only [compileAll, Traced.outcome_bind, sameItem, inductionHypothesis sameRest]

/-- Both compilers give an expression the same query or the same error. -/
theorem compile_outcome_eq (expr : Expr) :
    (other.compile root expr).outcome = (compiler.compile root expr).outcome := by
  -- The root moves to the target of each link, so agreement is carried along.
  induction expr using Expr.induction generalizing root with
  | withAll items inductionHypothesis =>
      have same := compileAll_outcome_eq fun item member => inductionHypothesis item member agree
      rw [compile, compile]
      cases Expr.sharedPath items with
      | none => rfl
      | some path => simp only [Traced.outcome_bind, same]
  | andAll items inductionHypothesis | orAny items inductionHypothesis =>
      have same := compileAll_outcome_eq fun item member => inductionHypothesis item member agree
      simp only [compile, Traced.outcome_bind, same]
  | negation child inductionHypothesis =>
      simp only [compile, Traced.outcome_bind, inductionHypothesis agree]
  | linked link child inductionHypothesis =>
      rw [compile_linked_outcome, compile_linked_outcome, agree.resolvePath_outcome_eq]
      cases resolved : (compiler.resolvePath root link.entity).outcome with
      | error error => rfl
      | ok path =>
          have there := agree.of_reaches (reaches_of_resolvePath resolved)
          have sameFold : other.fold path = compiler.fold path := by
            funext query
            exact agree.fold_eq (fun hop member => reaches_of_mem_path resolved member) query
          simp only [Except.bind]
          rw [@inductionHypothesis (.toSelf link.entity) there, sameFold]
  | comparison operator field term => simp only [compile]
  | foreign name => simp only [compile]

end AgreeFrom

/-! ## Discovery that ends around one root -/

section Around

variable {extent : List Entity}

/-- Within reach of the root, a compiler for it is answered what the collaborators
answer. -/
theorem discover_around
    {collaborators : Collaborators}
    {start entity : Entity}
    (closed : collaborators.ClosedOn (start :: extent))
    (reached : Reaches (collaborators.around start extent closed).linksOf start entity) :
    (collaborators.around start extent closed).discover entity = collaborators.discover entity := by
  have stays : (collaborators.around start extent closed).ClosedOn (start :: extent) := by
    intro source links inside found
    exact closed source links inside ((if_pos inside).symm.trans found)
  have inside : entity ∈ start :: extent := by
    apply reached.keeps (· ∈ start :: extent) List.mem_cons_self
    exact linksOf_closed stays
  exact if_pos inside

/-- A compiler for one root compiles there what any compiler with its collaborators
does. -/
theorem compile_around
    (compiler : Compiler)
    (root : Link)
    (closed : compiler.ClosedOn (root.entity :: extent))
    (expr : Expr) :
    ((compiler.around root.entity extent closed).compile root expr).outcome =
      (compiler.compile root expr).outcome := by
  have agree : (compiler.around root.entity extent closed).AgreeFrom compiler root.entity :=
    { discover := fun entity reached => (discover_around closed reached).symm
      resolve := fun _ _ => rfl
      visibility := rfl
      ignoreVisibility := rfl
      docType := rfl }
  exact (agree.compile_outcome_eq expr).symm

end Around

/-! ## Catalogs -/

/-- Compilers over two catalogs agree from a root where the catalogs find the
same. -/
theorem Over.agreeFrom
    {first second : Catalog}
    {start : Entity}
    (overFirst : compiler.Over first)
    (overSecond : other.Over second)
    (sameVisibility : other.visibility = compiler.visibility)
    (sameIgnoring : other.ignoreVisibility = compiler.ignoreVisibility)
    (sameType : other.docType = compiler.docType)
    (found :
      ∀ entity, Reaches first.declaredLinks start entity →
        second.find? entity = first.find? entity) :
    compiler.AgreeFrom other start := by
  have sameAnswer :
      ∀ entity, Reaches compiler.linksOf start entity →
        second.resolve entity = first.resolve entity := by
    intro entity reached
    rw [overFirst.linksOf_eq] at reached
    rw [Catalog.resolve, Catalog.resolve, found entity reached]
  constructor
  · intro entity reached
    rw [overFirst.discover, overSecond.discover, Catalog.links, Catalog.links,
      sameAnswer entity reached]
  · intro entity reached
    rw [overFirst.resolve, overSecond.resolve, sameAnswer entity reached]
  · exact sameVisibility
  · exact sameIgnoring
  · exact sameType

/-- A catalog finds the same for an entity that no added and no removed
declaration is about. -/
theorem find?_eq_of_perm
    {first second : Catalog}
    {added removed : List Declaration}
    (permuted : (first.entries ++ added).Perm (second.entries ++ removed))
    {entity : Entity}
    (untouched : ∀ declaration ∈ added ++ removed, declaration.entity ≠ entity) :
    second.find? entity = first.find? entity := by
  have sameEntries :
      ∀ options, ⟨entity, options⟩ ∈ second.entries ↔ ⟨entity, options⟩ ∈ first.entries := by
    intro options
    have member := @List.Perm.mem_iff _ ⟨entity, options⟩ _ _ permuted
    have notAdded : ⟨entity, options⟩ ∉ added := by
      intro inAdded
      exact untouched _ (List.mem_append_left removed inAdded) rfl
    have notRemoved : ⟨entity, options⟩ ∉ removed := by
      intro inRemoved
      exact untouched _ (List.mem_append_right added inRemoved) rfl
    simpa only [List.mem_append, notAdded, notRemoved, or_false, iff_comm] using member
  ext options
  rw [Catalog.find?_eq_some_iff, Catalog.find?_eq_some_iff, sameEntries]

/-- A compilation depends on the settings and on what the catalog finds within
reach of the root. The order of declarations does not matter, nor do
declarations of entities out of reach. -/
theorem compile_outcome_of_catalogs
    {first second : Catalog}
    (overFirst : compiler.Over first)
    (overSecond : other.Over second)
    (sameVisibility : other.visibility = compiler.visibility)
    (sameIgnoring : other.ignoreVisibility = compiler.ignoreVisibility)
    (sameType : other.docType = compiler.docType)
    (root : Link)
    (expr : Expr) :
    ((∀ entity, Reaches first.declaredLinks root.entity entity →
        second.find? entity = first.find? entity) →
      (other.compile root expr).outcome = (compiler.compile root expr).outcome) ∧
    ∀ added removed : List Declaration,
      (first.entries ++ added).Perm (second.entries ++ removed) →
      (∀ declaration ∈ added ++ removed,
        ¬ Reaches first.declaredLinks root.entity declaration.entity) →
      (other.compile root expr).outcome = (compiler.compile root expr).outcome := by
  have withinReach :
      (∀ entity, Reaches first.declaredLinks root.entity entity →
        second.find? entity = first.find? entity) →
      (other.compile root expr).outcome = (compiler.compile root expr).outcome := by
    intro found
    have agree := overFirst.agreeFrom overSecond sameVisibility sameIgnoring sameType found
    exact agree.compile_outcome_eq expr
  refine ⟨withinReach, ?_⟩
  intro added removed permuted outOfReach
  apply withinReach
  intro entity reached
  apply find?_eq_of_perm permuted
  intro declaration member same
  rw [← same] at reached
  exact outOfReach declaration member reached

/-! ## A catalog in another order, with one more declaration -/

section Crossing

open LinkedQuery.Topology

/-- A declaration that leads to `a` and that nothing leads to. -/
def outskirts : Declaration :=
  ⟨lettered 'z', ⟨⟨[.char 'Z']⟩, none, [joinTo 'a']⟩⟩

/-- The declarations of the crossing backwards, after the outskirts. -/
def widened : Catalog where
  entries := outskirts :: crossing.entries.reverse
  distinct := by decide

/-- Some document that is joined to a lettered one has a field. -/
def joinedTo (letter : Char) : Expr :=
  .linked (joinTo letter) (.comparison .contains ⟨⟨[.char 'f']⟩⟩ .matchAll)

theorem widened_find?
    (entity : Entity)
    (reached : Reaches crossing.declaredLinks (lettered 'a') entity) :
    widened.find? entity = crossing.find? entity := by
  have same :
      ∀ declared ∈ crossing.entries.map Declaration.entity,
        widened.find? declared = crossing.find? declared := by
    decide
  apply same
  simpa [Catalog.declares] using crossing_declares reached

theorem outskirts_not_reached :
    ∀ declaration ∈ [outskirts] ++ [],
      ¬ Reaches crossing.declaredLinks (lettered 'a') declaration.entity := by
  intro declaration member reached
  obtain rfl := List.mem_singleton.mp member
  have undeclared : crossing.declares outskirts.entity = false := by decide
  rw [crossing_declares reached] at undeclared
  cases undeclared

/-- The compiled form of a join to `d`: the way there leads over `b`. -/
def joinedQuery : Dsl :=
  guardedAt 'B' (guardedAt 'D' (.leaf (.present ⟨[.char 'f']⟩)))

/-- Joins to `d` are found as before, and joins to the outskirts are not found. -/
theorem compile_outcome_of_crossing :
    ((atRest crossing).compile (about 'a') (joinedTo 'd')).outcome = .ok joinedQuery ∧
    ((atRest widened).compile (about 'a') (joinedTo 'd')).outcome = .ok joinedQuery ∧
    ((atRest crossing).compile (about 'a') (joinedTo 'z')).outcome =
      .error (.pathNotFound (lettered 'a') (lettered 'z')) ∧
    ((atRest widened).compile (about 'a') (joinedTo 'z')).outcome =
      .error (.pathNotFound (lettered 'a') (lettered 'z')) := by
  have overCrossing := over_ofCatalog crossing quiet false ⟨[.char 't']⟩
  have overWidened := over_ofCatalog widened quiet false ⟨[.char 't']⟩
  have found :
      ((atRest crossing).compile (about 'a') (joinedTo 'd')).outcome = .ok joinedQuery := by
    cbv
  have notFound :
      ((atRest crossing).compile (about 'a') (joinedTo 'z')).outcome =
        .error (.pathNotFound (lettered 'a') (lettered 'z')) := by
    cbv
  have permuted : (crossing.entries ++ [outskirts]).Perm (widened.entries ++ []) := by decide
  refine ⟨found, ?_, notFound, ?_⟩
  · rw [← found]
    exact (compile_outcome_of_catalogs overCrossing overWidened rfl rfl rfl (about 'a') _).1
      widened_find?
  · rw [← notFound]
    exact (compile_outcome_of_catalogs overCrossing overWidened rfl rfl rfl (about 'a') _).2
      [outskirts] [] permuted outskirts_not_reached

end Crossing

end Compiler

end LinkedQuery
