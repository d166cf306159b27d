import LinkedQuery.Proofs.Compiler.Containment

/-!
Contract: what a compilation asks of its collaborators, and the failure that
ends it.

Owns:
- the requests, each with the stage that it is charged to;
- the agenda of a compilation: its requests in order, and among them the faults
  of the query where they are met;
- the outcome for any collaborators: the first step of the agenda that fails
  decides it.

Does not own: which nodes of a query have a fault.
-/

namespace LinkedQuery

open Traversal

/-- Entities in the order of a breadth-first discovery: just those within reach
of a start, an earlier one having a first chain of lower rank. -/
def Traversal.BreadthFirst
    (next : Entity → List Link)
    (start : Entity)
    (entities : List Entity) : Prop :=
  (∀ entity, entity ∈ entities ↔ Reaches next start entity) ∧
  entities.Pairwise fun earlier later =>
    ∃ front back,
      FirstChain next start earlier front ∧
      FirstChain next start later back ∧
      rank next start front < rank next start back

/-- Whether an error says that a query was not compiled; a collaborator may also
give up with an error that does not. -/
def QueryError.isCompileError : QueryError → Bool
  | .general _ => false
  | _ => true

theorem QueryError.isCompileError_of_isOfQuery
    {error : QueryError}
    (ofQuery : error.isOfQuery = true) :
    error.isCompileError = true := by
  cases error with
  | general => cases ofQuery
  | _ => rfl

theorem errorOf?_bind
    {ε α β : Type}
    {outcome : Except ε α}
    {next : α → Except ε β}
    {rest : Option ε}
    (ends : ∀ value, outcome = .ok value → errorOf? (next value) = rest) :
    errorOf? (outcome.bind next) = (errorOf? outcome).or rest := by
  cases outcome with
  | error error => rfl
  | ok value => exact ends value rfl

theorem Topology.findPath_error_eq
    {topology : Topology}
    {start target : Entity}
    {error : QueryError}
    (failed : topology.findPath start target = .error error) :
    error = .pathNotFound start target := by
  unfold findPath at failed
  split at failed
  · cases failed
  · exact (Except.error.inj failed).symm

/-- A request to a collaborator. -/
inductive Request
  /-- The links that start from an entity. -/
  | links (entity : Entity)
  /-- The options of an entity's index. -/
  | options (entity : Entity)
  /-- The filter clause for an index and a document type. -/
  | filter (index type : Text)

/-- The stage that a refusal of a request is charged to. -/
def Request.stage : Request → Stage
  | .links _ => .topology
  | .options _ => .catalog
  | .filter _ _ => .visibility

/-- A step that can end a compilation. -/
inductive Step
  /-- A collaborator is asked. -/
  | ask (request : Request)
  /-- A fault of the query is met. -/
  | reject (error : QueryError)

namespace Compiler

variable {compiler : Compiler} {root : Link}

/-! ## Agendas -/

/-- Why a request is refused, if it is. -/
def refusal? (compiler : Compiler) : Request → Option Refusal
  | .links entity => errorOf? (compiler.discover entity)
  | .options entity => errorOf? (compiler.resolve entity)
  | .filter index type => errorOf? (compiler.visibility index type)

/-- A step passes if it is a request that is answered. -/
def Passes (compiler : Compiler) : Step → Prop
  | .ask request => compiler.refusal? request = none
  | .reject _ => False

/-- The error of a step that fails: a fault of a collaborator is charged to its
stage, and an error that it raised passes as it is. -/
def FailsWith (compiler : Compiler) : Step → QueryError → Prop
  | .ask request, error =>
      (∃ cause,
        compiler.refusal? request = some (.fault cause) ∧
        error = .lookupFailed request.stage cause) ∨
      compiler.refusal? request = some (.error error)
  | .reject fault, error => error = fault

/-- The discovery around a root: the links of each entity, breadth first. -/
def discoverySteps (compiler : Compiler) (root : Entity) : List Step :=
  (compiler.reach root).map fun entity => .ask (.links entity)

/-- The join along a hop: the options of its entity, then the filter of its
index, unless filters are ignored. -/
def joinSteps (compiler : Compiler) (hop : Link) : List Step :=
  .ask (.options hop.entity) ::
    match compiler.resolve hop.entity with
    | .error _ => []
    | .ok options =>
        if compiler.ignoreVisibility then
          []
        else
          [.ask (.filter options.backendName (compiler.typeOf options))]

/-- The fold along a path: its joins from the last one back to the first. -/
def foldSteps (compiler : Compiler) (path : List Link) : List Step :=
  path.reverse.flatMap compiler.joinSteps

mutual

/-- The steps of the compilation of an expression about a root. A link takes the
discovery around the root, then its child, then the joins along its path. -/
def agenda (compiler : Compiler) : Expr → Link → List Step
  | .withAll items, root =>
      match Expr.sharedPath items with
      | none => [.reject (.ambiguousPath (.withAll items))]
      | some _ => agendaOfAll compiler items root
  | .andAll items, root => agendaOfAll compiler items root
  | .orAny items, root => agendaOfAll compiler items root
  | .negation child, root => agenda compiler child root
  | .linked link child, root =>
      compiler.discoverySteps root.entity ++
        match (compiler.resolvePath root link.entity).outcome with
        | .error _ => [.reject (.pathNotFound root.entity link.entity)]
        | .ok path => agenda compiler child (.toSelf link.entity) ++ compiler.foldSteps path
  | .comparison operator field term, _ =>
      match compileComparison operator field term with
      | .error error => [.reject error]
      | .ok _ => []
  | .foreign name, _ => [.reject (.unsupportedExpr (.foreign name))]

/-- The steps of the compilation of several expressions about a root. -/
def agendaOfAll (compiler : Compiler) : List Expr → Link → List Step
  | [], _ => []
  | expr :: rest, root => agenda compiler expr root ++ agendaOfAll compiler rest root

end

/-! ## The first failure -/

/-- The error of a step, if it fails. -/
def failure? (compiler : Compiler) : Step → Option QueryError
  | .ask request => (compiler.refusal? request).map (Refusal.charge request.stage)
  | .reject error => some error

/-- The error of the first step that fails. -/
def firstFailure? (compiler : Compiler) (steps : List Step) : Option QueryError :=
  steps.findSome? compiler.failure?

theorem failure?_eq_none_iff {step : Step} :
    compiler.failure? step = none ↔ compiler.Passes step := by
  cases step with
  | ask request => exact Option.map_eq_none_iff
  | reject error => simp [failure?, Passes]

theorem failure?_eq_some_iff {step : Step} {error : QueryError} :
    compiler.failure? step = some error ↔ compiler.FailsWith step error := by
  cases step with
  | reject fault => simp [failure?, FailsWith, eq_comm]
  | ask request =>
      simp only [failure?, FailsWith]
      cases compiler.refusal? request with
      | none => simp
      | some refusal =>
          cases refusal with
          | fault found => simp [Refusal.charge, eq_comm]
          | error raised => simp [Refusal.charge]

theorem firstFailure?_append (front back : List Step) :
    compiler.firstFailure? (front ++ back) =
      (compiler.firstFailure? front).or (compiler.firstFailure? back) :=
  List.findSome?_append

/-- A survey ends with the first refusal of links. -/
theorem errorOf?_survey (entities : List Entity) (topology : Topology) :
    errorOf? (compiler.survey entities topology).outcome =
      compiler.firstFailure? (entities.map fun entity => .ask (.links entity)) := by
  induction entities generalizing topology with
  | nil => rfl
  | cons entity rest inductionHypothesis =>
      rw [survey, firstFailure?, List.map_cons, List.findSome?_cons]
      cases answer : compiler.discover entity with
      | error refusal => simp [failure?, refusal?, answer, Request.stage]
      | ok links =>
          simp only [failure?, refusal?, answer, errorOf?_ok, Option.map_none,
            Traced.outcome_emit_bind]
          exact inductionHypothesis (topology.pushAll entity links)

/-- Either discovery answers throughout and there is a path, or its first refusal
comes out, or that there is no path. -/
theorem errorOf?_resolvePath (root : Link) (target : Entity) :
    errorOf? (compiler.resolvePath root target).outcome =
      compiler.firstFailure?
        (compiler.discoverySteps root.entity ++
          match (compiler.resolvePath root target).outcome with
          | .error _ => [.reject (.pathNotFound root.entity target)]
          | .ok _ => []) := by
  rw [firstFailure?_append, discoverySteps,
    ← errorOf?_survey (compiler.reach root.entity) (.rooted root.entity), resolvePath_outcome]
  cases surveyed :
      (compiler.survey (compiler.reach root.entity) (.rooted root.entity)).outcome with
  | error error => rfl
  | ok topology =>
      simp only [Except.bind]
      cases found : topology.findPath root.entity target with
      | ok path => rfl
      | error error =>
          obtain rfl := Topology.findPath_error_eq found
          rfl

theorem errorOf?_join (hop : Link) (query : Dsl) :
    errorOf? (compiler.join hop query).outcome =
      compiler.firstFailure? (compiler.joinSteps hop) := by
  unfold join joinSteps
  rw [firstFailure?, List.findSome?_cons]
  cases found : compiler.resolve hop.entity with
  | error refusal => simp [failure?, refusal?, found, Request.stage]
  | ok options =>
      simp only [failure?, refusal?, found, errorOf?_ok, Option.map_none, filter]
      cases compiler.ignoreVisibility with
      | true => rfl
      | false =>
          cases built : compiler.visibility options.backendName (compiler.typeOf options) with
          | error refusal => simp [failure?, refusal?, built, Request.stage, Except.bind]
          | ok clause => simp [failure?, refusal?, built, Except.bind]

/-- A fold ends with the first refusal from the target end back. -/
theorem errorOf?_fold (path : List Link) (query : Dsl) :
    errorOf? (compiler.fold path query).outcome =
      compiler.firstFailure? (compiler.foldSteps path) := by
  induction path with
  | nil => rfl
  | cons hop rest inductionHypothesis =>
      rw [fold, Traced.outcome_bind, foldSteps, List.reverse_cons, List.flatMap_append,
        List.flatMap_singleton, firstFailure?_append, ← foldSteps, ← inductionHypothesis]
      exact errorOf?_bind fun inner _ => errorOf?_join hop inner

theorem errorOf?_compileAll_agenda
    {items : List Expr}
    (each :
      ∀ item ∈ items,
        errorOf? (compiler.compile root item).outcome =
          compiler.firstFailure? (compiler.agenda item root)) :
    errorOf? (compiler.compileAll root items).outcome =
      compiler.firstFailure? (compiler.agendaOfAll items root) := by
  induction items with
  | nil => rfl
  | cons item rest inductionHypothesis =>
      obtain ⟨itemFails, restFails⟩ := List.forall_mem_cons.mp each
      rw [agendaOfAll, firstFailure?_append, ← itemFails, ← inductionHypothesis restFails,
        compileAll, Traced.outcome_bind]
      apply errorOf?_bind
      intro query _
      rw [Traced.outcome_bind]
      exact errorOf?_bind_of_ok fun queries _ => ⟨_, rfl⟩

/-- A compilation ends with the first failure on its agenda. -/
theorem errorOf?_compile_agenda (expr : Expr) :
    errorOf? (compiler.compile root expr).outcome =
      compiler.firstFailure? (compiler.agenda expr root) := by
  induction expr using Expr.induction generalizing root with
  | withAll items inductionHypothesis =>
      rw [compile, agenda]
      cases Expr.sharedPath items with
      | none => rfl
      | some path =>
          simp only [Traced.outcome_bind]
          rw [← errorOf?_compileAll_agenda fun item member => inductionHypothesis item member]
          exact errorOf?_bind_of_ok fun queries _ => ⟨_, rfl⟩
  | andAll items inductionHypothesis | orAny items inductionHypothesis =>
      rw [compile, agenda, Traced.outcome_bind,
        ← errorOf?_compileAll_agenda fun item member => inductionHypothesis item member]
      exact errorOf?_bind_of_ok fun queries _ => ⟨_, rfl⟩
  | negation child inductionHypothesis =>
      rw [compile, agenda, Traced.outcome_bind, ← inductionHypothesis]
      exact errorOf?_bind_of_ok fun query _ => ⟨_, rfl⟩
  | linked link child inductionHypothesis =>
      have discovery := @errorOf?_resolvePath compiler root link.entity
      rw [compile_linked_outcome, agenda]
      cases resolved : (compiler.resolvePath root link.entity).outcome with
      | error error =>
          rw [resolved] at discovery
          exact discovery
      | ok path =>
          -- A resolved path tells that no step of the discovery fails.
          simp only [resolved, errorOf?_ok, List.append_nil] at discovery
          rw [firstFailure?_append, ← discovery, Option.none_or, firstFailure?_append,
            ← inductionHypothesis, Except.bind]
          exact errorOf?_bind fun query _ => errorOf?_fold path query
  | comparison operator field term =>
      rw [compile, agenda, Traced.outcome_lift]
      cases compileComparison operator field term <;> rfl
  | foreign name => rfl

/-! ## The faults of the query -/

theorem not_reject_mem_discoverySteps (root : Entity) (error : QueryError) :
    .reject error ∉ compiler.discoverySteps root := by
  simp [discoverySteps]

theorem not_reject_mem_foldSteps (path : List Link) (error : QueryError) :
    .reject error ∉ compiler.foldSteps path := by
  intro member
  obtain ⟨hop, -, atHop⟩ := List.mem_flatMap.mp member
  unfold joinSteps at atHop
  rcases List.mem_cons.mp atHop with isOptions | isFilter
  · cases isOptions
  · split at isFilter
    · cases isFilter
    · split at isFilter
      · cases isFilter
      · cases List.mem_singleton.mp isFilter

theorem compileComparison_confined
    {operator : Operator}
    {field : Field}
    {term : Term}
    {error : QueryError}
    (failed : compileComparison operator field term = .error error) :
    error.Confined (Expr.comparison operator field term).isOverlong := by
  rw [Expr.isOverlong_comparison]
  by_cases similar : operator = .moreLikeThis ∨ operator = .fuzzyLikeThis
  · rcases similar with rfl | rfl
    · obtain rfl := Except.error.inj failed
      exact ⟨rfl, fun overlong => by simpa [QueryError.isOverlong] using overlong⟩
    · obtain rfl := Except.error.inj failed
      exact ⟨rfl, fun overlong => by simpa [QueryError.isOverlong] using overlong⟩
  · obtain ⟨notSimilar, notFuzzy⟩ := not_or.mp similar
    rw [compileComparison_of_encodable notSimilar notFuzzy] at failed
    exact Dsl.encode_confined failed

theorem exists_agenda_of_agendaOfAll
    {items : List Expr}
    {step : Step}
    (member : step ∈ compiler.agendaOfAll items root) :
    ∃ item ∈ items, step ∈ compiler.agenda item root := by
  induction items with
  | nil => cases member
  | cons item rest inductionHypothesis =>
      rw [agendaOfAll] at member
      rcases List.mem_append.mp member with inItem | inRest
      · exact ⟨item, List.mem_cons_self, inItem⟩
      · obtain ⟨other, otherMember, inOther⟩ := inductionHypothesis inRest
        exact ⟨other, List.mem_cons_of_mem _ otherMember, inOther⟩

/-- The faults on an agenda lie in the query, and they can be written if the
query can. -/
theorem reject_confined
    {expr : Expr}
    {error : QueryError}
    (member : .reject error ∈ compiler.agenda expr root) :
    error.Confined expr.isOverlong := by
  induction expr using Expr.induction generalizing root with
  | withAll items inductionHypothesis =>
      rw [agenda] at member
      cases shared : Expr.sharedPath items with
      | none =>
          rw [shared] at member
          cases List.mem_singleton.mp member
          exact ⟨rfl, id⟩
      | some path =>
          rw [shared] at member
          obtain ⟨item, isItem, inItem⟩ := exists_agenda_of_agendaOfAll member
          exact (inductionHypothesis item isItem inItem).mono (Expr.isOverlong_of_child isItem)
  | andAll items inductionHypothesis | orAny items inductionHypothesis =>
      rw [agenda] at member
      obtain ⟨item, isItem, inItem⟩ := exists_agenda_of_agendaOfAll member
      exact (inductionHypothesis item isItem inItem).mono (Expr.isOverlong_of_child isItem)
  | negation child inductionHypothesis =>
      rw [agenda] at member
      exact (inductionHypothesis member).mono
        (Expr.isOverlong_of_child (List.mem_singleton.mpr rfl))
  | linked link child inductionHypothesis =>
      rw [agenda] at member
      rcases List.mem_append.mp member with inDiscovery | later
      · exact absurd inDiscovery (not_reject_mem_discoverySteps root.entity error)
      · split at later
        · cases List.mem_singleton.mp later
          exact ⟨rfl, fun overlong => by cases overlong⟩
        · rcases List.mem_append.mp later with inChild | inFold
          · exact (inductionHypothesis inChild).mono
              (Expr.isOverlong_of_child (List.mem_singleton.mpr rfl))
          · exact absurd inFold (not_reject_mem_foldSteps _ error)
  | comparison operator field term =>
      rw [agenda] at member
      cases compared : compileComparison operator field term with
      | ok query =>
          rw [compared] at member
          cases member
      | error fault =>
          rw [compared] at member
          cases List.mem_singleton.mp member
          exact compileComparison_confined compared
  | foreign name =>
      rw [agenda] at member
      cases List.mem_singleton.mp member
      exact ⟨rfl, id⟩

/-! ## Any collaborators -/

theorem breadthFirst_reach (compiler : Compiler) (root : Entity) :
    BreadthFirst compiler.linksOf root (compiler.reach root) := by
  refine ⟨fun entity => mem_reach_iff, ?_⟩
  obtain ⟨all, reached, exploration⟩ := compiler.exists_exploration_reach root
  rw [reached, List.pairwise_map]
  refine exploration.discovered.sorted.imp_of_mem ?_
  intro earlier later earlierMember laterMember ranked
  exact ⟨_, _, exploration.first earlierMember, exploration.first laterMember, ranked⟩

/-- A compilation ends well just if every step of its agenda passes; otherwise
the first step that does not decides the error. The error is a compile error,
which can be written if the query can, or the very error that a collaborator
raised. -/
theorem compile_fails_iff
    (compiler : Compiler)
    (root : Link)
    (expr : Expr) :
    ((∃ query, (compiler.compile root expr).outcome = .ok query) ↔
      ∀ step ∈ compiler.agenda expr root, compiler.Passes step) ∧
    (∀ error,
      (compiler.compile root expr).outcome = .error error ↔
        ∃ front step back,
          compiler.agenda expr root = front ++ step :: back ∧
          (∀ earlier ∈ front, compiler.Passes earlier) ∧
          compiler.FailsWith step error) ∧
    (∀ error, (compiler.compile root expr).outcome = .error error →
      error.isCompileError = true ∧ (error.isOverlong = true → expr.isOverlong = true) ∨
      ∃ request,
        .ask request ∈ compiler.agenda expr root ∧
        compiler.refusal? request = some (.error error)) ∧
    ∀ entity, BreadthFirst compiler.linksOf entity (compiler.reach entity) := by
  have decided :
      ∀ error,
        (compiler.compile root expr).outcome = .error error ↔
          ∃ front step back,
            compiler.agenda expr root = front ++ step :: back ∧
            (∀ earlier ∈ front, compiler.Passes earlier) ∧
            compiler.FailsWith step error := by
    intro error
    rw [← errorOf?_eq_some_iff, errorOf?_compile_agenda, firstFailure?,
      List.findSome?_eq_some_iff]
    simp only [failure?_eq_none_iff, failure?_eq_some_iff]
    constructor
    · rintro ⟨front, step, back, split, fails, passed⟩
      exact ⟨front, step, back, split, passed, fails⟩
    · rintro ⟨front, step, back, split, passed, fails⟩
      exact ⟨front, step, back, split, fails, passed⟩
  refine ⟨?_, decided, ?_, compiler.breadthFirst_reach⟩
  · rw [← errorOf?_eq_none_iff, errorOf?_compile_agenda, firstFailure?,
      List.findSome?_eq_none_iff]
    simp only [failure?_eq_none_iff]
  · intro error failed
    obtain ⟨front, step, back, split, -, fails⟩ := (decided error).mp failed
    have member : step ∈ compiler.agenda expr root := by
      rw [split]
      exact List.mem_append_right _ List.mem_cons_self
    cases step with
    | reject fault =>
        obtain rfl : error = fault := fails
        have confined := reject_confined member
        exact .inl ⟨QueryError.isCompileError_of_isOfQuery confined.ofQuery, confined.written⟩
    | ask request =>
        rcases fails with ⟨cause, -, rfl⟩ | raised
        · exact .inl ⟨rfl, fun overlong => by cases overlong⟩
        · exact .inr ⟨request, member, raised⟩

/-! ## Failures side by side -/

section Crossing

open LinkedQuery.Topology

-- Where look-up and filters are both refused, the look-up at the last hop is
-- what fails, and only after the child was compiled.
example :
    errorOf?
        ((((atRest crossing).refuseCatalog (.fault (.runtime "c"))).refuseVisibility
            (.fault (.runtime "v"))).compile (about 'a')
          (.linked (joinTo 'd') (.comparison .contains ⟨"f"⟩ .matchAll))).outcome =
      some (.lookupFailed .catalog (.runtime "c")) := by
  cbv

/-- A group on a field that is not nested, compared with a distance of too many
digits to be written. -/
def overlongGroup : Expr :=
  .withAll [.comparison .eq ⟨"f"⟩ (.fuzzy "x" (Nat.pow 10 maxDigits) none)]

/-- Without any failure of a collaborator, an error of the query may still not be
met as itself: the fault of writing a distance that is too long takes its
place. -/
theorem compile_overlongGroup :
    ∃ error,
      ((atRest crossing).compile (about 'a') overlongGroup).outcome = .error error ∧
      error.isOfQuery = true ∧
      error.message = OverlongInteger.written.message ∧
      error.message ≠ error.wording := by
  have overlong : (QueryError.ambiguousPath overlongGroup).isOverlong = true := by
    apply Expr.isOverlong_of_child (List.mem_singleton.mpr rfl)
    rw [Expr.isOverlong_comparison]
    exact isOverlong_natCast_iff.mpr (Nat.le_refl _)
  exact ⟨_, rfl, rfl, QueryError.message_of_isOverlong overlong,
    QueryError.message_ne_wording rfl overlong⟩

end Crossing

end Compiler

end LinkedQuery
