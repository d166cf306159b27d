import LinkedQuery.Compiler
import LinkedQuery.Proofs.Catalog
import LinkedQuery.Proofs.Topology.ShortestPath
import LinkedQuery.Proofs.Traced

/-!
Contract: the topology that a compiler discovers around a root, and the paths
that it resolves there.

Owns:
- the links that discovery answers and the joins among them;
- the outcome of a path resolution for any collaborators: the first refusal in
  the order of discovery, or the path over any topology that agrees with the
  answers within reach;
- the same for a catalog that serves as look-up and as discovery, whichever way
  its declarations are ordered.

Does not own: the search itself, and what is done with a path.
-/

namespace LinkedQuery

open Traversal

namespace Compiler

variable {compiler : Compiler} {root : Link} {target : Entity}

/-- The links of an entity that join something. -/
def joinsOf (compiler : Compiler) (entity : Entity) : List Link :=
  (compiler.linksOf entity).filter (!·.isSelf)

/-- Discovery answers for every entity within reach of a root. -/
def Answered (compiler : Compiler) (root : Entity) : Prop :=
  ∀ entity, Reaches compiler.linksOf root entity → ∃ links, compiler.discover entity = .ok links

theorem linksOf_of_ok
    {entity : Entity}
    {links : List Link}
    (answer : compiler.discover entity = .ok links) :
    compiler.linksOf entity = links := by
  rw [linksOf, answer]

theorem linksOf_closed
    {entities : List Entity}
    (closed : compiler.ClosedOn entities) :
    ∀ source ∈ entities, ∀ link ∈ compiler.linksOf source, link.entity ∈ entities := by
  intro source sourceMember link member
  cases answer : compiler.discover source with
  | error refusal => simp [linksOf, answer] at member
  | ok links =>
      rw [linksOf_of_ok answer] at member
      exact closed source links sourceMember answer link member

theorem joinsOf_subset (compiler : Compiler) (entity : Entity) :
    compiler.joinsOf entity ⊆ compiler.linksOf entity :=
  List.filter_sublist.subset

/-! ## The survey of entities -/

/-- A survey ends at the first entity whose links are refused, or it pushes the
links of all. -/
theorem survey_cases (compiler : Compiler) (entities : List Entity) (topology : Topology) :
    ((∀ entity ∈ entities, ∃ links, compiler.discover entity = .ok links) ∧
      (compiler.survey entities topology).outcome =
        .ok (entities.foldl
          (fun topology entity => topology.pushAll entity (compiler.linksOf entity)) topology)) ∨
    ∃ front entity back refusal,
      entities = front ++ entity :: back ∧
      (∀ earlier ∈ front, ∃ links, compiler.discover earlier = .ok links) ∧
      compiler.discover entity = .error refusal ∧
      (compiler.survey entities topology).outcome = .error (refusal.charge .topology) := by
  induction entities generalizing topology with
  | nil => exact Or.inl ⟨by simp, rfl⟩
  | cons entity rest inductionHypothesis =>
      cases answer : compiler.discover entity with
      | error refusal =>
          refine Or.inr ⟨[], entity, rest, refusal, rfl, by simp, answer, ?_⟩
          simp [survey, answer]
      | ok links =>
          have stepped :
              (compiler.survey (entity :: rest) topology).outcome =
                (compiler.survey rest (topology.pushAll entity links)).outcome := by
            simp [survey, answer, Except.bind]
          rw [stepped]
          rcases inductionHypothesis (topology.pushAll entity links) with
            ⟨answered, pushed⟩ | ⟨front, refused, back, refusal, rfl, answered, refusedHere, failed⟩
          · left
            refine ⟨List.forall_mem_cons.mpr ⟨⟨links, answer⟩, answered⟩, ?_⟩
            rw [pushed, List.foldl_cons, linksOf_of_ok answer]
          · right
            refine ⟨entity :: front, refused, back, refusal, rfl, ?_, refusedHere, failed⟩
            exact List.forall_mem_cons.mpr ⟨⟨links, answer⟩, answered⟩

/-! ## The resolution of a path -/

theorem resolvePath_outcome (compiler : Compiler) (root : Link) (target : Entity) :
    (compiler.resolvePath root target).outcome =
      (compiler.survey (compiler.reach root.entity) (.rooted root.entity)).outcome.bind
        fun topology => topology.findPath root.entity target := by
  simp only [resolvePath, Traced.outcome_bind, Traced.outcome_lift, Traced.outcome_emit,
    Traced.outcome_pure]
  cases (compiler.survey (compiler.reach root.entity) (.rooted root.entity)).outcome with
  | error error => rfl
  | ok topology =>
      simp only [Except.bind]
      cases topology.findPath root.entity target <;> rfl

/-- The entities around a root are those of an exploration of its links. -/
theorem exists_exploration_reach (compiler : Compiler) (root : Entity) :
    ∃ all,
      compiler.reach root = all.map Discovery.entity ∧
      Exploration compiler.linksOf root all := by
  obtain ⟨all, visited, exploration⟩ := exists_exploration (linksOf_closed (compiler.closed root))
  refine ⟨all, ?_, exploration⟩
  rw [reach, visited, List.map_map]
  rfl

theorem mem_reach_iff {root entity : Entity} :
    entity ∈ compiler.reach root ↔ Reaches compiler.linksOf root entity := by
  obtain ⟨all, reached, exploration⟩ := compiler.exists_exploration_reach root
  rw [reached, exploration.mem_entities_iff]

theorem reach_nodup (compiler : Compiler) (root : Entity) : (compiler.reach root).Nodup := by
  obtain ⟨all, reached, exploration⟩ := compiler.exists_exploration_reach root
  rw [reached]
  exact exploration.discovered.nodup

/-- Either discovery answers within reach, and the topology around the root has
all joins there, or the first refusal in the order of discovery is charged. -/
theorem resolvePath_cases (compiler : Compiler) (root : Link) (target : Entity) :
    (compiler.Answered root.entity ∧
      ∃ topology : Topology,
        topology.Known ∧
        (∀ entity, Reaches compiler.linksOf root.entity entity →
          topology.outgoing entity = compiler.joinsOf entity) ∧
        (compiler.resolvePath root target).outcome = topology.findPath root.entity target) ∨
    ∃ entity refusal,
      FirstMet compiler.linksOf root.entity
        (fun other => ∃ cause, compiler.discover other = .error cause) entity ∧
      compiler.discover entity = .error refusal ∧
      (compiler.resolvePath root target).outcome = .error (refusal.charge .topology) := by
  rw [resolvePath_outcome]
  rcases survey_cases compiler (compiler.reach root.entity) (.rooted root.entity) with
    ⟨answered, surveyed⟩ | ⟨front, entity, back, refusal, split, answered, refused, failed⟩
  · left
    refine ⟨?_,
      Topology.ofPushes root.entity
        (Topology.hopsOf compiler.linksOf (compiler.reach root.entity)),
      Topology.known_ofPushes _ _, ?_, ?_⟩
    · intro entity entityReached
      exact answered entity (mem_reach_iff.mpr entityReached)
    · intro entity entityReached
      have member : entity ∈ compiler.reach root.entity := mem_reach_iff.mpr entityReached
      rw [Topology.outgoing_ofPushes, Topology.joinsFrom,
        Topology.pushedFrom_hopsOf (compiler.reach_nodup root.entity) member, joinsOf]
    · rw [surveyed, Topology.foldl_pushAll]
      rfl
  · right
    refine ⟨entity, refusal, ?_, refused, by rw [failed]; rfl⟩
    obtain ⟨all, reached, exploration⟩ := compiler.exists_exploration_reach root.entity
    rw [reached] at split
    obtain ⟨discoveries, later, rfl, rfl, sameLater⟩ := List.map_eq_append_iff.mp split
    obtain ⟨discovery, others, rfl, rfl, rfl⟩ := List.map_eq_cons_iff.mp sameLater
    apply exploration.firstMet ⟨refusal, refused⟩
    rintro earlier earlierMember ⟨cause, alsoRefused⟩
    obtain ⟨links, answer⟩ := answered earlier.entity (List.mem_map_of_mem earlierMember)
    rw [alsoRefused] at answer
    cases answer

/-- Where discovery answers, a path is resolved as by any topology that has the
same joins within reach. -/
theorem resolvePath_eq_findPath
    (answered : compiler.Answered root.entity)
    {topology : Topology}
    (known : topology.Known)
    (agree :
      ∀ entity, Reaches compiler.linksOf root.entity entity →
        topology.outgoing entity = compiler.joinsOf entity) :
    (compiler.resolvePath root target).outcome = topology.findPath root.entity target := by
  rcases resolvePath_cases compiler root target with
    ⟨-, surveyed, surveyedKnown, surveyedAgree, resolved⟩ |
    ⟨entity, refusal, ⟨-, path, chain, -⟩, refused, -⟩
  · rw [resolved]
    apply Topology.findPath_congr known surveyedKnown
    intro entity reached
    have linked : Reaches compiler.linksOf root.entity entity := by
      apply reached.mono
      intro other otherReached
      rw [agree other otherReached]
      exact compiler.joinsOf_subset other
    rw [surveyedAgree entity linked, agree entity linked]
  · obtain ⟨links, answer⟩ := answered entity ⟨path, chain⟩
    rw [refused] at answer
    cases answer

/-- A path is resolved just if discovery answers within reach and the path is
the first chain of joins. -/
theorem resolvePath_eq_ok_iff {path : List Link} :
    (compiler.resolvePath root target).outcome = .ok path ↔
      compiler.Answered root.entity ∧ FirstChain compiler.joinsOf root.entity target path := by
  rcases resolvePath_cases compiler root target with
    ⟨answered, topology, known, agree, resolved⟩ |
    ⟨entity, refusal, ⟨-, route, chain, -⟩, refused, failed⟩
  · have sameJoins :
        ∀ entity, Reaches compiler.joinsOf root.entity entity →
          topology.outgoing entity = compiler.joinsOf entity := by
      intro entity joined
      exact agree entity (joined.mono fun other _ => compiler.joinsOf_subset other)
    rw [resolved, Topology.findPath_eq_ok_iff known, firstChain_congr sameJoins]
    exact ⟨fun first => ⟨answered, first⟩, And.right⟩
  · rw [failed]
    constructor
    · intro impossible
      cases impossible
    · rintro ⟨answered, -⟩
      obtain ⟨links, answer⟩ := answered entity ⟨route, chain⟩
      rw [refused] at answer
      cases answer

theorem reaches_of_resolvePath
    {path : List Link}
    (resolved : (compiler.resolvePath root target).outcome = .ok path) :
    Reaches compiler.linksOf root.entity target := by
  obtain ⟨-, first⟩ := resolvePath_eq_ok_iff.mp resolved
  have joined : Reaches compiler.joinsOf root.entity target := ⟨path, first.chain⟩
  exact joined.mono fun entity _ => compiler.joinsOf_subset entity

/-- A resolved path meets only what is within reach. -/
theorem reaches_of_mem_path
    {path : List Link}
    (resolved : (compiler.resolvePath root target).outcome = .ok path)
    {hop : Link}
    (member : hop ∈ path) :
    Reaches compiler.linksOf root.entity hop.entity := by
  obtain ⟨-, first⟩ := resolvePath_eq_ok_iff.mp resolved
  obtain ⟨front, -, -, -, chain, -⟩ := first.chain.cut (List.mem_map_of_mem member)
  have joined : Reaches compiler.joinsOf root.entity hop.entity := ⟨front, chain⟩
  exact joined.mono fun entity _ => compiler.joinsOf_subset entity

/-! ## A catalog as collaborator -/

/-- The compiler asks one catalog for options and for links. -/
structure Over (compiler : Compiler) (catalog : Catalog) : Prop where
  resolve : ∀ entity, compiler.resolve entity = (catalog.resolve entity).mapError .fault
  discover : ∀ entity, compiler.discover entity = (catalog.links entity).mapError .fault

theorem over_ofCatalog
    (catalog : Catalog)
    (snapshot : Snapshot)
    (ignoreVisibility : Bool)
    (docType : Text) :
    (ofCatalog catalog snapshot ignoreVisibility docType).Over catalog :=
  ⟨fun _ => rfl, fun _ => rfl⟩

section OverCatalog

variable {catalog : Catalog}

theorem Over.discover_of_declares
    (overCatalog : compiler.Over catalog)
    {entity : Entity}
    (declared : catalog.declares entity = true) :
    compiler.discover entity = .ok (catalog.declaredLinks entity) := by
  obtain ⟨options, found⟩ := Catalog.declares_iff.mp declared
  rw [overCatalog.discover, Catalog.links_of_find? found, Catalog.declaredLinks, found]
  rfl

theorem Over.discover_of_not_declares
    (overCatalog : compiler.Over catalog)
    {entity : Entity}
    (undeclared : catalog.declares entity = false) :
    compiler.discover entity =
      .error (.fault (.missing ("Unknown index: " ++ entity.text))) := by
  rw [overCatalog.discover, Catalog.links_of_not_declares undeclared]
  rfl

/-- Discovery refuses just what is not declared. -/
theorem Over.refused_iff
    (overCatalog : compiler.Over catalog)
    (entity : Entity) :
    (∃ refusal, compiler.discover entity = .error refusal) ↔ catalog.declares entity = false := by
  constructor
  · rintro ⟨refusal, refused⟩
    by_contra declared
    rw [overCatalog.discover_of_declares (Bool.eq_true_of_not_eq_false declared)] at refused
    cases refused
  · intro undeclared
    exact ⟨_, overCatalog.discover_of_not_declares undeclared⟩

theorem Over.linksOf_eq (overCatalog : compiler.Over catalog) :
    compiler.linksOf = catalog.declaredLinks := by
  funext entity
  cases declared : catalog.declares entity with
  | true => exact linksOf_of_ok (overCatalog.discover_of_declares declared)
  | false =>
      rw [linksOf, overCatalog.discover_of_not_declares declared, Catalog.declaredLinks,
        Catalog.find?_of_not_declares declared]

/-- The hops of a catalog's declarations, in any order, are the declared links
of each entity. -/
theorem pushedFrom_hopsOfEntries
    {entries : List Declaration}
    (permuted : entries.Perm catalog.entries)
    {entity : Entity}
    (declared : catalog.declares entity = true) :
    Topology.pushedFrom (Catalog.hopsOfEntries entries) entity = catalog.declaredLinks entity := by
  have asSources :
      Catalog.hopsOfEntries entries =
        Topology.hopsOf catalog.declaredLinks (entries.map Declaration.entity) := by
    rw [Catalog.hopsOfEntries, Topology.hopsOf, List.flatMap_map]
    apply List.flatMap_congr
    intro declaration member
    have found : catalog.find? declaration.entity = some declaration.options :=
      Catalog.find?_eq_some_iff.mpr (permuted.mem_iff.mp member)
    rw [Catalog.declaredLinks, found]
  have sameEntities := permuted.map Declaration.entity
  have distinct : (entries.map Declaration.entity).Nodup :=
    sameEntities.nodup_iff.mpr catalog.distinct
  have listed : entity ∈ entries.map Declaration.entity := by
    rw [sameEntities.mem_iff]
    simpa [Catalog.declares] using declared
  rw [asSources, Topology.pushedFrom_hopsOf distinct listed]

/-- Over a catalog, a resolution fails with the first undeclared entity within
reach, in the order of discovery; if there is none, it ends as the search over
the links of all declarations in any order does. -/
theorem resolvePath_over_catalog
    (overCatalog : compiler.Over catalog)
    (root : Link)
    (target : Entity) :
    ((∃ entity,
        Reaches catalog.declaredLinks root.entity entity ∧ catalog.declares entity = false) →
      ∃ missing,
        FirstMet catalog.declaredLinks root.entity (fun entity => catalog.declares entity = false)
          missing ∧
        (compiler.resolvePath root target).outcome =
          .error (.lookupFailed .topology (.missing ("Unknown index: " ++ missing.text)))) ∧
    ((∀ entity, Reaches catalog.declaredLinks root.entity entity → catalog.declares entity = true) →
      ∀ (hub : Entity) (entries : List Declaration), entries.Perm catalog.entries →
        (compiler.resolvePath root target).outcome =
          (Topology.ofPushes hub (Catalog.hopsOfEntries entries)).findPath root.entity target) := by
  rw [← overCatalog.linksOf_eq]
  constructor
  · rintro ⟨entity, reached, undeclared⟩
    rcases resolvePath_cases compiler root target with
      ⟨answered, -⟩ | ⟨missing, refusal, first, refused, failed⟩
    · obtain ⟨links, answer⟩ := answered entity reached
      rw [overCatalog.discover_of_not_declares undeclared] at answer
      cases answer
    · simp only [overCatalog.refused_iff] at first
      refine ⟨missing, first, ?_⟩
      rw [overCatalog.discover_of_not_declares first.1] at refused
      rw [failed, ← Except.error.inj refused]
      rfl
  · intro declared hub entries permuted
    have answered : compiler.Answered root.entity := by
      intro entity reached
      exact ⟨_, overCatalog.discover_of_declares (declared entity reached)⟩
    apply resolvePath_eq_findPath answered (Topology.known_ofPushes _ _)
    intro entity reached
    rw [Topology.outgoing_ofPushes, Topology.joinsFrom,
      pushedFrom_hopsOfEntries permuted (declared entity reached), joinsOf, overCatalog.linksOf_eq]

end OverCatalog

/-! ## A catalog with two ways from one entity to another -/

section Crossing

open LinkedQuery.Topology

/-- Two ways lead from `a` to `d`, and one back. -/
def crossing : Catalog where
  entries :=
    [⟨lettered 'a', ⟨⟨[.char 'A']⟩, none, [joinTo 'b', joinTo 'c']⟩⟩,
     ⟨lettered 'b', ⟨⟨[.char 'B']⟩, none, [joinTo 'd']⟩⟩,
     ⟨lettered 'c', ⟨⟨[.char 'C']⟩, none, [joinTo 'd']⟩⟩,
     ⟨lettered 'd', ⟨⟨[.char 'D']⟩, none, [joinTo 'a']⟩⟩]
  distinct := by decide

/-- A catalog whose only declared entity has a self link to another. -/
def dangling : Catalog where
  entries := [⟨lettered 'a', ⟨⟨[.char 'A']⟩, none, [.toSelf (lettered 'x')]⟩⟩]
  distinct := by decide

/-- A snapshot in which nothing runs. -/
def quiet : Snapshot :=
  ⟨0, 1, 1, 0, [], by decide⟩

/-- A compiler over a catalog and a quiet snapshot. -/
def atRest (catalog : Catalog) : Compiler :=
  ofCatalog catalog quiet false ⟨[.char 't']⟩

/-- The root of queries about an entity named by one letter. -/
def about (letter : Char) : Link :=
  .toSelf (lettered letter)

/-- A subselect of a lettered index behind its filter. -/
def guardedAt (letter : Char) (query : Dsl) : Dsl :=
  .subselect ⟨[.char letter]⟩ ⟨[.char 't']⟩ (some ⟨[.char 'i']⟩) (some ⟨[.char 'j']⟩)
    (.filtered query (quiet.clause ⟨[.char letter]⟩ ⟨[.char 't']⟩))

theorem crossing_declares
    {entity : Entity}
    (reached : Reaches crossing.declaredLinks (lettered 'a') entity) :
    crossing.declares entity = true := by
  have stays : ∀ source ∈ crossing.entries.map Declaration.entity,
      ∀ link ∈ crossing.declaredLinks source, crossing.declares link.entity = true := by
    decide
  have declaredRoot : crossing.declares (lettered 'a') = true := by decide
  refine reached.keeps (crossing.declares · = true) declaredRoot fun source declared => ?_
  apply stays source
  simpa [Catalog.declares] using declared

/-- A self link is followed to an entity that is not declared even if the root is
the target; and the order of declarations does not matter. -/
theorem resolvePath_over_crossing :
    (∃ missing,
      FirstMet dangling.declaredLinks (lettered 'a')
        (fun entity => dangling.declares entity = false) missing ∧
      ((atRest dangling).resolvePath (about 'a') (lettered 'a')).outcome =
        .error (.lookupFailed .topology (.missing ("Unknown index: " ++ missing.text)))) ∧
    ((atRest crossing).resolvePath (about 'a') (lettered 'd')).outcome =
      (ofPushes (lettered 'a') (Catalog.hopsOfEntries crossing.entries.reverse)).findPath
        (lettered 'a') (lettered 'd') := by
  constructor
  · refine (resolvePath_over_catalog (over_ofCatalog dangling _ _ _) (about 'a') _).1
      ⟨lettered 'x', ?_, ?_⟩
    · exact ⟨[.toSelf (lettered 'x')], by decide, rfl⟩
    · decide
  · exact (resolvePath_over_catalog (over_ofCatalog crossing _ _ _) (about 'a') _).2
      (fun entity => crossing_declares) _ _ (List.reverse_perm _)

end Crossing

end Compiler

end LinkedQuery
