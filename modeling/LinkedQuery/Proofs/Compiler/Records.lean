import LinkedQuery.Proofs.Compiler.LinkTargets
import LinkedQuery.Proofs.Compiler.Requests

/-!
Contract: what the records of a compilation say about the compiled query.

Owns:
- the labels that records begin with;
- the trail of a compilation: for each link the discovery around its root and
  then its path, for each join its filter and then its fold;
- the numbers of such records, which are those of links and of subselects.

Does not own: which query is compiled, and which path a link resolves to.
-/

namespace LinkedQuery

open Traversal

/-! ## Labels -/

/-- Whether the wording of an event begins with a label. -/
def Event.begins (label : Text) (event : Event) : Bool :=
  label.toList.isPrefixOf event.message.toList

/-- The number of events whose wording begins with a label. -/
def Event.count (label : Text) (events : List Event) : ℕ :=
  events.countP (Event.begins label)

namespace Event

/-- The record that the links of an entity were found. -/
def ofDiscovery (next : Entity → List Link) (entity : Entity) : Event :=
  .discovered (next entity).length entity

theorem count_append (label : Text) (front back : List Event) :
    count label (front ++ back) = count label front + count label back :=
  List.countP_append

theorem count_cons (label : Text) (event : Event) (events : List Event) :
    count label (event :: events) = count label events + if event.begins label then 1 else 0 :=
  List.countP_cons

theorem begins_resolved (root target : Entity) (path : List Link) :
    (resolved root target path).begins "Resolved path" = true ∧
      (resolved root target path).begins "Applying visibility filter" = false ∧
      (resolved root target path).begins "Folded hop" = false :=
  ⟨rfl, rfl, rfl⟩

theorem begins_filterApplied (index : Text) :
    (filterApplied index).begins "Resolved path" = false ∧
      (filterApplied index).begins "Applying visibility filter" = true ∧
      (filterApplied index).begins "Folded hop" = false :=
  ⟨rfl, rfl, rfl⟩

theorem begins_folded (hop : Link) (index : Text) :
    (folded hop index).begins "Resolved path" = false ∧
      (folded hop index).begins "Applying visibility filter" = false ∧
      (folded hop index).begins "Folded hop" = true :=
  ⟨rfl, rfl, rfl⟩

/-- Discoveries are not counted under a label of another record, only what follows
them is. -/
theorem count_discoveries_append
    {label : Text}
    (other : ∀ count source, (discovered count source).begins label = false)
    (next : Entity → List Link)
    (met : List Entity)
    (events : List Event) :
    count label (met.map (ofDiscovery next) ++ events) = count label events := by
  have none : count label (met.map (ofDiscovery next)) = 0 := by
    rw [count, List.countP_map, List.countP_eq_zero]
    intro entity _
    simp [ofDiscovery, other]
  rw [count_append, none, Nat.zero_add]

end Event

/-! ## Links of an expression -/

namespace Expr

/-- Whether an expression is a link. -/
def isLink : Expr → Bool
  | .linked _ _ => true
  | _ => false

/-- The entity that a node is about and the one that it links to, if it is a
link. -/
def crossing? : Entity × Expr → Option (Entity × Entity)
  | (entity, .linked link _) => some (entity, link.entity)
  | _ => none

/-- The links of an expression about a root, parents before children: each with
the entity that it is about and the one that it leads to. -/
def crossings (root : Entity) (expr : Expr) : List (Entity × Entity) :=
  (expr.placed root).filterMap crossing?

/-- A node that is no link has the crossings of its children. -/
theorem crossings_eq_flatMap
    {root : Entity}
    {expr : Expr}
    (inner : expr.isLink = false) :
    expr.crossings root = expr.children.flatMap (crossings root) := by
  have below :
      ∀ items : List Expr,
        (placedAll items root).filterMap crossing? = items.flatMap (crossings root) := by
    intro items
    induction items with
    | nil => rfl
    | cons item rest inductionHypothesis =>
        rw [placedAll, List.filterMap_append, inductionHypothesis, List.flatMap_cons, crossings]
  cases expr with
  | linked => cases inner
  | withAll | andAll | orAny | negation | comparison | foreign =>
      rw [crossings, placed_eq_cons, List.filterMap_cons_none rfl]
      exact below _

theorem crossings_linked (root : Entity) (link : Link) (child : Expr) :
    (linked link child).crossings root =
      (root, link.entity) :: child.crossings link.entity := by
  rw [crossings, placed]
  rfl

/-- There is one crossing for each link. -/
theorem length_crossings (root : Entity) (expr : Expr) :
    (expr.crossings root).length = expr.walk.countP isLink := by
  have atLink : (fun node : Entity × Expr => (crossing? node).isSome) = isLink ∘ Prod.snd := by
    funext node
    obtain ⟨entity, expr⟩ := node
    cases expr <;> rfl
  rw [crossings, List.length_filterMap_eq_countP, atLink, ← List.countP_map, placed_map_snd]

end Expr

/-! ## Trails -/

/-- The trail of a compilation with some crossings and so many joins.  Each
crossing leaves one record for every entity within reach of where it starts, in
the order of discovery, and then its path; nothing comes between.  Each join
leaves the record of its fold, right behind that of its filter unless filters are
ignored. -/
inductive Trail (next : Entity → List Link) (ignoring : Bool) :
    List (Entity × Entity) → ℕ → List Event → Prop
  | nil : Trail next ignoring [] 0 []
  | crossing
      {root target : Entity}
      {met : List Entity}
      {path : List Link}
      {crossings : List (Entity × Entity)}
      {joins : ℕ}
      {events : List Event}
      (distinct : met.Nodup)
      (ordered : BreadthFirst next root met)
      (rest : Trail next ignoring crossings joins events) :
      Trail next ignoring ((root, target) :: crossings) joins
        (met.map (Event.ofDiscovery next) ++ .resolved root target path :: events)
  | filtered
      {hop : Link}
      {index : Text}
      {crossings : List (Entity × Entity)}
      {joins : ℕ}
      {events : List Event}
      (applied : ignoring = false)
      (rest : Trail next ignoring crossings joins events) :
      Trail next ignoring crossings (joins + 1)
        (.filterApplied index :: .folded hop index :: events)
  | plain
      {hop : Link}
      {index : Text}
      {crossings : List (Entity × Entity)}
      {joins : ℕ}
      {events : List Event}
      (ignored : ignoring = true)
      (rest : Trail next ignoring crossings joins events) :
      Trail next ignoring crossings (joins + 1) (.folded hop index :: events)

namespace Trail

variable
  {next : Entity → List Link}
  {ignoring : Bool}
  {crossings more : List (Entity × Entity)}
  {joins moreJoins : ℕ}
  {events moreEvents : List Event}

theorem append
    (front : Trail next ignoring crossings joins events)
    (back : Trail next ignoring more moreJoins moreEvents) :
    Trail next ignoring (crossings ++ more) (joins + moreJoins) (events ++ moreEvents) := by
  induction front with
  | nil => simpa using back
  | crossing distinct ordered rest inductionHypothesis =>
      rw [List.append_assoc]
      exact .crossing distinct ordered inductionHypothesis
  | filtered applied rest inductionHypothesis =>
      rw [Nat.add_right_comm]
      exact .filtered applied inductionHypothesis
  | plain ignored rest inductionHypothesis =>
      rw [Nat.add_right_comm]
      exact .plain ignored inductionHypothesis

/-- A trail has one record of a path for each crossing and one of a fold for each
join, and as many of filters unless they are ignored. -/
theorem counts (trail : Trail next ignoring crossings joins events) :
    Event.count "Resolved path" events = crossings.length ∧
      Event.count "Applying visibility filter" events = (if ignoring then 0 else joins) ∧
      Event.count "Folded hop" events = joins := by
  induction trail with
  | nil => exact ⟨rfl, (ite_self 0).symm, rfl⟩
  | @crossing root target met path crossings joins events distinct ordered rest counted =>
      obtain ⟨resolved, filtered, folded⟩ := counted
      refine ⟨?_, ?_, ?_⟩
      · rw [Event.count_discoveries_append fun _ _ => rfl, Event.count_cons, resolved]
        simp [Event.begins_resolved]
      · rw [Event.count_discoveries_append fun _ _ => rfl, Event.count_cons, filtered]
        simp [Event.begins_resolved]
      · rw [Event.count_discoveries_append fun _ _ => rfl, Event.count_cons, folded]
        simp [Event.begins_resolved]
  | filtered applied rest counted =>
      obtain ⟨resolved, filtered, folded⟩ := counted
      simp only [Event.count_cons, Event.begins_filterApplied, Event.begins_folded, resolved,
        filtered, folded, applied]
      simp
  | plain ignored rest counted =>
      obtain ⟨resolved, filtered, folded⟩ := counted
      simp only [Event.count_cons, Event.begins_folded, resolved, filtered, folded, ignored]
      simp

end Trail

/-! ## The trail of a compilation -/

namespace Compiler

variable {compiler : Compiler} {root : Link} {target : Entity} {query : Dsl}

/-- A survey that ends well has found the links of every entity in turn. -/
theorem events_survey
    {entities : List Entity}
    {topology surveyed : Topology}
    (ended : (compiler.survey entities topology).outcome = .ok surveyed) :
    (compiler.survey entities topology).events =
      entities.map (Event.ofDiscovery compiler.linksOf) := by
  induction entities generalizing topology with
  | nil => rfl
  | cons entity rest inductionHypothesis =>
      cases answer : compiler.discover entity with
      | error refusal =>
          simp only [survey, answer] at ended
          cases ended
      | ok links =>
          simp only [survey, answer, Traced.outcome_emit_bind] at ended ⊢
          rw [List.map_cons, ← inductionHypothesis ended, Event.ofDiscovery, linksOf_of_ok answer]
          rfl

/-- The records of a sequence whose first part ends well. -/
theorem events_bind
    {ε α β : Type}
    {first : Traced ε α}
    {value : α}
    (ended : first.outcome = .ok value)
    (next : α → Traced ε β) :
    (first >>= next).events = first.events ++ (next value).events := by
  show (Traced.andThen first next).events = _
  rw [Traced.andThen, ended]

theorem events_bind_pure
    {ε α β : Type}
    {first : Traced ε α}
    {value : α}
    (ended : first.outcome = .ok value)
    (restate : α → β) :
    (first >>= fun value => pure (restate value)).events = first.events := by
  rw [events_bind ended]
  exact List.append_nil _

theorem events_resolvePath
    {path : List Link}
    (ended : (compiler.resolvePath root target).outcome = .ok path) :
    (compiler.resolvePath root target).events =
      (compiler.reach root.entity).map (Event.ofDiscovery compiler.linksOf) ++
        [.resolved root.entity target path] := by
  obtain ⟨topology, surveyed, found⟩ := Traced.bind_eq_ok_iff.mp ended
  obtain ⟨other, lifted, emitted⟩ := Traced.bind_eq_ok_iff.mp found
  obtain rfl : other = path := Except.ok.inj emitted
  rw [resolvePath, events_bind surveyed, events_bind lifted, events_survey surveyed]
  rfl

theorem trail_resolvePath
    {path : List Link}
    (ended : (compiler.resolvePath root target).outcome = .ok path) :
    Trail compiler.linksOf compiler.ignoreVisibility [(root.entity, target)] 0
      (compiler.resolvePath root target).events := by
  rw [events_resolvePath ended]
  exact .crossing (compiler.reach_nodup root.entity) (compiler.breadthFirst_reach root.entity) .nil

theorem trail_join
    {hop : Link}
    {joined : Dsl}
    (ended : (compiler.join hop query).outcome = .ok joined) :
    Trail compiler.linksOf compiler.ignoreVisibility [] 1 (compiler.join hop query).events := by
  unfold join at ended ⊢
  cases found : compiler.resolve hop.entity with
  | error refusal =>
      simp only [found] at ended
      cases ended
  | ok options =>
      simp only [found] at ended ⊢
      obtain ⟨inner, filtered, -⟩ := Traced.bind_eq_ok_iff.mp ended
      rw [events_bind filtered]
      unfold filter at filtered ⊢
      cases ignored : compiler.ignoreVisibility with
      | true => exact .plain rfl .nil
      | false =>
          cases built : compiler.visibility options.backendName (compiler.typeOf options) with
          | error refusal =>
              simp only [ignored, built] at filtered
              cases filtered
          | ok clause => exact .filtered rfl .nil

theorem trail_fold
    {path : List Link}
    {folded : Dsl}
    (ended : (compiler.fold path query).outcome = .ok folded) :
    Trail compiler.linksOf compiler.ignoreVisibility [] path.length
      (compiler.fold path query).events := by
  induction path generalizing folded with
  | nil => exact .nil
  | cons hop rest inductionHypothesis =>
      obtain ⟨inner, restFolded, joined⟩ := fold_cons_eq_ok_iff.mp ended
      rw [fold, events_bind restFolded]
      exact (inductionHypothesis restFolded).append (trail_join joined)

theorem trail_compileAll
    {items : List Expr}
    {queries : List Dsl}
    (compiled : (compiler.compileAll root items).outcome = .ok queries)
    (each :
      ∀ item ∈ items, ∀ query, (compiler.compile root item).outcome = .ok query →
        Trail compiler.linksOf compiler.ignoreVisibility (item.crossings root.entity)
          query.subselects.length (compiler.compile root item).events) :
    Trail compiler.linksOf compiler.ignoreVisibility (items.flatMap (Expr.crossings root.entity))
      (Dsl.subselectsOfAll queries).length (compiler.compileAll root items).events := by
  induction items generalizing queries with
  | nil =>
      obtain rfl := Except.ok.inj compiled
      exact .nil
  | cons item rest inductionHypothesis =>
      obtain ⟨ofItem, ofRest⟩ := List.forall_mem_cons.mp each
      obtain ⟨query, itemCompiled, later⟩ := Traced.bind_eq_ok_iff.mp compiled
      obtain ⟨others, restCompiled, rfl⟩ := Traced.bind_pure_eq_ok_iff.mp later
      rw [compileAll, events_bind itemCompiled, events_bind_pure restCompiled, List.flatMap_cons,
        Dsl.subselectsOfAll, List.length_append]
      exact (ofItem query itemCompiled).append (inductionHypothesis restCompiled ofRest)

/-- The records of a group are those of its items. -/
theorem trail_group
    {items : List Expr}
    {combine : List Dsl → Dsl}
    (compiled :
      (compiler.compileAll root items >>= fun queries => pure (combine queries)).outcome =
        .ok query)
    (joins : ∀ queries, (combine queries).subselects = Dsl.subselectsOfAll queries)
    (each :
      ∀ item ∈ items, ∀ root query, (compiler.compile root item).outcome = .ok query →
        Trail compiler.linksOf compiler.ignoreVisibility (item.crossings root.entity)
          query.subselects.length (compiler.compile root item).events) :
    Trail compiler.linksOf compiler.ignoreVisibility (items.flatMap (Expr.crossings root.entity))
      query.subselects.length
      (compiler.compileAll root items >>= fun queries => pure (combine queries)).events := by
  obtain ⟨queries, all, rfl⟩ := Traced.bind_pure_eq_ok_iff.mp compiled
  rw [events_bind_pure all, joins]
  exact trail_compileAll all fun item member => each item member root

/-- A compilation that ends well leaves a trail with the crossings of the
expression and the joins of the query. -/
theorem trail_compile
    {expr : Expr}
    (compiled : (compiler.compile root expr).outcome = .ok query) :
    Trail compiler.linksOf compiler.ignoreVisibility (expr.crossings root.entity)
      query.subselects.length (compiler.compile root expr).events := by
  induction expr using Expr.induction generalizing root query with
  | withAll items inductionHypothesis =>
      rw [compile] at compiled ⊢
      rw [Expr.crossings_eq_flatMap rfl]
      cases shared : Expr.sharedPath items with
      | none =>
          simp only [shared] at compiled
          cases compiled
      | some path =>
          simp only [shared] at compiled ⊢
          refine trail_group compiled (fun queries => ?_) fun item member _ _ =>
            inductionHypothesis item member
          rw [Dsl.subselects, Dsl.subselects]
  | andAll items inductionHypothesis =>
      rw [compile] at compiled ⊢
      rw [Expr.crossings_eq_flatMap rfl]
      refine trail_group compiled (fun queries => ?_) fun item member _ _ =>
        inductionHypothesis item member
      rw [Dsl.subselects]
  | orAny items inductionHypothesis =>
      rw [compile] at compiled ⊢
      rw [Expr.crossings_eq_flatMap rfl]
      refine trail_group compiled (fun queries => ?_) fun item member _ _ =>
        inductionHypothesis item member
      rw [Dsl.subselects]
  | negation child inductionHypothesis =>
      obtain ⟨inner, childCompiled, rfl⟩ := compile_negation_eq_ok_iff.mp compiled
      rw [compile, events_bind_pure childCompiled, Expr.crossings_eq_flatMap rfl, Expr.children,
        List.flatMap_singleton, Dsl.subselects,
        Dsl.subselectsOfAll, Dsl.subselectsOfAll, List.append_nil]
      exact inductionHypothesis childCompiled
  | linked link child inductionHypothesis =>
      obtain ⟨path, inner, resolved, childCompiled, folded⟩ := compile_linked_eq_ok_iff.mp compiled
      obtain ⟨joins, follow, same⟩ := follows_fold folded
      have crossing := trail_resolvePath resolved
      have ofChild := inductionHypothesis childCompiled
      rw [compile, events_bind resolved, Expr.crossings_linked, same, List.length_append,
        ← follow.length_eq]
      cases path with
      | nil =>
          -- The path is empty just if the link leads to the root itself.
          obtain ⟨-, first⟩ := resolvePath_eq_ok_iff.mp resolved
          have here : root.entity = link.entity := first.chain
          have sameChild :
              compiler.compile (.toSelf link.entity) child = compiler.compile root child := by
            rw [← here, compile_toSelf]
          rw [sameChild] at ofChild
          exact crossing.append ofChild
      | cons hop rest =>
          have ofFold := trail_fold folded
          simp only [List.isEmpty_cons, Bool.false_eq_true, if_false]
          rw [events_bind childCompiled, Nat.add_comm]
          simpa using crossing.append (ofChild.append ofFold)
  | comparison operator field term =>
      rw [compile, Traced.outcome_lift] at compiled
      rw [Dsl.subselects_encode (encode_of_compileComparison compiled)]
      exact .nil
  | foreign name =>
      rw [compile] at compiled
      cases compiled

/-- Over a catalog and a snapshot, the records of a compilation that ends well
account for its query: there are as many folds as subselects, as many filters
unless they are ignored, and one path for each link of the expression.  Between
the start of a resolution and its path there is just one record for each entity
within reach of the root that is current there, in the order of discovery. -/
theorem compile_leaves_trail
    (catalog : Catalog)
    (snapshot : Snapshot)
    (ignoreVisibility : Bool)
    (docType : Text)
    (root : Link)
    (expr : Expr)
    (query : Dsl)
    (compiled :
      ((ofCatalog catalog snapshot ignoreVisibility docType).compile root expr).outcome =
        .ok query) :
    let events := ((ofCatalog catalog snapshot ignoreVisibility docType).compile root expr).events
    Event.count "Folded hop" events = query.subselects.length ∧
    Event.count "Applying visibility filter" events =
      (if ignoreVisibility then 0 else query.subselects.length) ∧
    Event.count "Resolved path" events = expr.walk.countP Expr.isLink ∧
    Trail catalog.declaredLinks ignoreVisibility (expr.crossings root.entity)
      query.subselects.length events := by
  intro events
  have overCatalog := over_ofCatalog catalog snapshot ignoreVisibility docType
  have trail :
      Trail catalog.declaredLinks ignoreVisibility (expr.crossings root.entity)
        query.subselects.length events := by
    rw [← overCatalog.linksOf_eq]
    exact trail_compile compiled
  obtain ⟨resolved, filtered, folded⟩ := trail.counts
  refine ⟨folded, filtered, ?_, trail⟩
  rw [resolved, Expr.length_crossings]

/-! ## Joins inside one another and one that joins nothing -/

section Crossing

open LinkedQuery.Topology

/-- A field at `d` by way of a link to `d` within one to `d`, and a field at `a`
by a link to `a`. -/
def thereAndHere : Expr :=
  .andAll
    [.linked (joinTo 'd') (.linked (joinTo 'd') (.comparison .contains ⟨"f"⟩ .matchAll)),
     .linked (joinTo 'a') (.comparison .contains ⟨"g"⟩ .matchAll)]

-- Each of the three links is resolved, and two hops are folded for the first.
example :
    (((atRest crossing).compile (about 'a') thereAndHere).events.map fun event =>
        event.message.toList.take 1) =
      ["D", "D", "D", "D", "R", "D", "D", "D", "D", "R", "A", "F", "A", "F",
       "D", "D", "D", "D", "R"].map fun letter => (letter : Text).toList := by
  decide +kernel

theorem compile_leaves_trail_thereAndHere :
    ∃ query,
      ((atRest crossing).compile (about 'a') thereAndHere).outcome = .ok query ∧
      let events := ((atRest crossing).compile (about 'a') thereAndHere).events
      Event.count "Folded hop" events = query.subselects.length ∧
      Event.count "Applying visibility filter" events = query.subselects.length ∧
      Event.count "Resolved path" events = thereAndHere.walk.countP Expr.isLink ∧
      Trail crossing.declaredLinks false (thereAndHere.crossings (lettered 'a'))
        query.subselects.length events := by
  have succeeds :
      (errorOf? ((atRest crossing).compile (about 'a') thereAndHere).outcome).isNone = true := by
    decide +kernel
  obtain ⟨query, compiled⟩ := errorOf?_eq_none_iff.mp (Option.isNone_iff_eq_none.mp succeeds)
  exact ⟨query, compiled, compile_leaves_trail crossing quiet false _ _ _ _ compiled⟩

end Crossing

end Compiler

end LinkedQuery
