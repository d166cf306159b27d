import LinkedQuery.Proofs.Traversal.BreadthFirst
import LinkedQuery.Topology

/-!
Contract: the path that a topology gives from a start to a target.

Owns:
- the links and entities that a topology knows after any pushes;
- the path as the first chain over those links, read back from the visits;
- what that means for pushes: a shortest join, and of these the one whose hops
  were pushed first.

Does not own: chains, their rank and the traversal.
-/

namespace LinkedQuery.Topology

open Traversal

/-- The topology after some hops were pushed one after the other. -/
def ofPushes (root : Entity) (pushes : List Hop) : Topology :=
  pushes.foldl (fun topology hop => topology.push hop.source hop.link) (.rooted root)

/-- The links that were pushed from a source in order. -/
def pushedFrom (pushes : List Hop) (source : Entity) : List Link :=
  (pushes.filter (·.source == source)).map Hop.link

/-- The links that were pushed from a source and are no self links. -/
def joinsFrom (pushes : List Hop) (source : Entity) : List Link :=
  (pushedFrom pushes source).filter (!·.isSelf)

/-- The hops of some sources, with the links of each in order. -/
def hopsOf (links : Entity → List Link) (sources : List Entity) : List Hop :=
  sources.flatMap fun source => (links source).map (Hop.mk source)

/-- A path over pushed links: as short as any, and of those that are equally
short the one whose hops were pushed first, compared from the start on. -/
structure ShortestJoin
    (pushes : List Hop)
    (start target : Entity)
    (path : List Link) : Prop where
  chain : Chain (joinsFrom pushes) start path target
  distinct : (start :: path.map Link.entity).Nodup
  shortest : ∀ other, Chain (joinsFrom pushes) start other target → path.length ≤ other.length
  earliest :
    ∀ other, Chain (joinsFrom pushes) start other target → other.length = path.length →
      positions (pushedFrom pushes) start path ≤ positions (pushedFrom pushes) start other

/-! ## Pushing -/

theorem hops_push (topology : Topology) (source : Entity) (link : Link) :
    (topology.push source link).hops =
      topology.hops ++ [⟨source, link⟩].filter (!·.link.isSelf) := by
  by_cases isSelf : link.isSelf <;> simp [push, isSelf]

/-- Every hop leads to an entity that the topology knows. -/
def Known (topology : Topology) : Prop :=
  ∀ hop ∈ topology.hops, hop.target ∈ topology.entities

theorem mem_addEntity {entities : List Entity} {entity other : Entity} :
    other ∈ addEntity entities entity ↔ other ∈ entities ∨ other = entity := by
  unfold addEntity
  split
  · rename_i listed
    have member : entity ∈ entities := by simpa using listed
    constructor
    · exact Or.inl
    · rintro (old | rfl)
      · exact old
      · exact member
  · simp

theorem known_rooted (root : Entity) : (rooted root).Known := by
  intro hop member
  simp [rooted] at member

theorem Known.push
    {topology : Topology}
    (known : topology.Known)
    (source : Entity)
    (link : Link) :
    (topology.push source link).Known := by
  unfold Topology.push
  split
  · exact known
  · intro hop member
    rw [mem_addEntity, mem_addEntity]
    rcases List.mem_append.mp member with old | new
    · exact Or.inl (Or.inl (known hop old))
    · obtain rfl := List.mem_singleton.mp new
      exact Or.inr rfl

/-- What is pushed onto a topology is known, self links apart. -/
theorem foldl_push
    {topology : Topology}
    (known : topology.Known)
    (pushes : List Hop) :
    let pushed := pushes.foldl (fun topology hop => topology.push hop.source hop.link) topology
    pushed.Known ∧ pushed.hops = topology.hops ++ pushes.filter (!·.link.isSelf) := by
  induction pushes generalizing topology with
  | nil => simpa using known
  | cons hop rest inductionHypothesis =>
      obtain ⟨restKnown, restHops⟩ := inductionHypothesis (known.push hop.source hop.link)
      refine ⟨restKnown, ?_⟩
      rw [List.foldl_cons, restHops, hops_push, List.append_assoc, ← List.filter_append,
        List.singleton_append]

theorem known_ofPushes (root : Entity) (pushes : List Hop) : (ofPushes root pushes).Known :=
  (foldl_push (known_rooted root) pushes).1

theorem hops_ofPushes (root : Entity) (pushes : List Hop) :
    (ofPushes root pushes).hops = pushes.filter (!·.link.isSelf) :=
  (foldl_push (known_rooted root) pushes).2

theorem outgoing_ofPushes (root : Entity) (pushes : List Hop) :
    (ofPushes root pushes).outgoing = joinsFrom pushes := by
  funext source
  rw [outgoing, hops_ofPushes, joinsFrom, pushedFrom, List.filter_map, List.filter_filter,
    List.filter_filter]
  congr 1
  apply List.filter_congr
  intro hop _
  exact Bool.and_comm _ _

/-! ## Pushing the links of several sources -/

theorem pushedFrom_append (first second : List Hop) (source : Entity) :
    pushedFrom (first ++ second) source = pushedFrom first source ++ pushedFrom second source := by
  simp [pushedFrom]

theorem pushedFrom_map_mk (links : List Link) (source other : Entity) :
    pushedFrom (links.map (Hop.mk source)) other = if source = other then links else [] := by
  by_cases same : source = other
  · simp [pushedFrom, List.filter_map, Function.comp_def, same]
  · simp [pushedFrom, List.filter_map, Function.comp_def, same]

theorem pushedFrom_hopsOf_of_not_mem
    {links : Entity → List Link}
    {sources : List Entity}
    {source : Entity}
    (absent : source ∉ sources) :
    pushedFrom (hopsOf links sources) source = [] := by
  induction sources with
  | nil => rfl
  | cons other rest inductionHypothesis =>
      simp only [List.mem_cons, not_or] at absent
      rw [hopsOf, List.flatMap_cons, pushedFrom_append, pushedFrom_map_mk,
        if_neg (Ne.symm absent.1), List.nil_append]
      exact inductionHypothesis absent.2

/-- From a source among distinct ones, its own links were pushed. -/
theorem pushedFrom_hopsOf
    {links : Entity → List Link}
    {sources : List Entity}
    (distinct : sources.Nodup)
    {source : Entity}
    (member : source ∈ sources) :
    pushedFrom (hopsOf links sources) source = links source := by
  induction sources with
  | nil => cases member
  | cons other rest inductionHypothesis =>
      rw [List.nodup_cons] at distinct
      rw [hopsOf, List.flatMap_cons, pushedFrom_append, pushedFrom_map_mk]
      rcases List.mem_cons.mp member with rfl | inRest
      · have restNothing := @pushedFrom_hopsOf_of_not_mem links _ _ distinct.1
        rw [if_pos rfl]
        exact (congrArg (links source ++ ·) restNothing).trans (List.append_nil _)
      · have different : other ≠ source := by
          rintro rfl
          exact distinct.1 inRest
        rw [if_neg different, List.nil_append]
        exact inductionHypothesis distinct.2 inRest

/-- Surveying sources one after the other pushes their hops. -/
theorem foldl_pushAll
    (links : Entity → List Link)
    (sources : List Entity)
    (topology : Topology) :
    sources.foldl (fun topology source => topology.pushAll source (links source)) topology =
      (hopsOf links sources).foldl (fun topology hop => topology.push hop.source hop.link)
        topology := by
  induction sources generalizing topology with
  | nil => rfl
  | cons source rest inductionHypothesis =>
      rw [List.foldl_cons, inductionHypothesis, hopsOf, hopsOf, List.flatMap_cons,
        List.foldl_append, List.foldl_map]
      rfl

/-! ## Tracing back -/

theorem traceBack_of_not_mem
    {visits : List Visit}
    {target : Entity}
    (unmet : target ∉ visits.map Visit.entity) :
    traceBack visits target = none := by
  induction visits with
  | nil => rfl
  | cons visit earlier inductionHypothesis =>
      simp only [List.map_cons, List.mem_cons, not_or] at unmet
      rw [traceBack, if_neg (Ne.symm unmet.1)]
      exact inductionHypothesis unmet.2

/-- Tracing back through discoveries gives the chain of each one. -/
theorem traceBack_of_discovered
    {next : Entity → List Link}
    {start : Entity}
    {known : List Discovery}
    (discovered : Discovered next start known)
    {discovery : Discovery}
    (member : discovery ∈ known) :
    traceBack (known.map Discovery.visit).reverse discovery.entity = some discovery.path := by
  induction discovered generalizing discovery with
  | start =>
      obtain rfl := List.mem_singleton.mp member
      simp [traceBack, Discovery.ofStart, Discovery.entity]
  | @along known parent link before parentKnown linkMember fresh above inductionHypothesis =>
      rw [List.map_append, List.reverse_append, List.map_cons, List.map_nil,
        List.reverse_singleton, List.singleton_append, traceBack]
      rcases List.mem_append.mp member with earlier | last
      · have different : (parent.along link).visit.entity ≠ discovery.entity := by
          intro same
          apply fresh
          rw [show link.entity = discovery.entity from same]
          exact List.mem_map_of_mem earlier
        rw [if_neg different]
        exact inductionHypothesis earlier
      · obtain rfl := List.mem_singleton.mp last
        rw [if_pos (show (parent.along link).visit.entity = (parent.along link).entity from rfl)]
        show (traceBack (known.map Discovery.visit).reverse parent.entity).map (· ++ [link]) = _
        rw [inductionHypothesis parentKnown]
        rfl

/-! ## The path as the first chain -/

section FindPath

variable {topology : Topology} {start target : Entity} {path : List Link}

theorem Known.closed
    (known : topology.Known)
    (start : Entity) :
    ∀ source ∈ start :: topology.entities, ∀ link ∈ topology.outgoing source,
      link.entity ∈ start :: topology.entities := by
  intro source _ link member
  obtain ⟨hop, hopMember, rfl⟩ := List.mem_map.mp member
  exact List.mem_cons_of_mem _ (known hop (List.mem_filter.mp hopMember).1)

/-- The path to a target within reach is the first chain to it. -/
theorem findPath_of_firstChain
    (known : topology.Known)
    (first : FirstChain topology.outgoing start target path) :
    topology.findPath start target = .ok path := by
  obtain ⟨all, visited, exploration⟩ := exists_exploration (known.closed start)
  obtain ⟨found, foundMember, rfl, -⟩ := exploration.exists_of_chain first.chain
  have traced := traceBack_of_discovered exploration.discovered foundMember
  rw [findPath, visitsFrom, visited, traced, (exploration.first foundMember).unique first]

/-- There is no path to a target out of reach. -/
theorem findPath_of_not_reaches
    (known : topology.Known)
    (unreached : ¬ Reaches topology.outgoing start target) :
    topology.findPath start target = .error (.pathNotFound start target) := by
  obtain ⟨all, visited, exploration⟩ := exists_exploration (known.closed start)
  have unmet : target ∉ (all.map Discovery.visit).reverse.map Visit.entity := by
    intro met
    apply unreached
    apply exploration.mem_entities_iff.mp
    simpa [Discovery.entity] using met
  rw [findPath, visitsFrom, visited, traceBack_of_not_mem unmet]

/-- A target within reach has a first chain. -/
theorem exists_firstChain
    (known : topology.Known)
    (reached : Reaches topology.outgoing start target) :
    ∃ path, FirstChain topology.outgoing start target path := by
  obtain ⟨all, -, exploration⟩ := exists_exploration (known.closed start)
  obtain ⟨path, chain⟩ := reached
  obtain ⟨found, foundMember, rfl, -⟩ := exploration.exists_of_chain chain
  exact ⟨found.path, exploration.first foundMember⟩

theorem findPath_eq_ok_iff (known : topology.Known) :
    topology.findPath start target = .ok path ↔
      FirstChain topology.outgoing start target path := by
  refine ⟨fun found => ?_, findPath_of_firstChain known⟩
  by_cases reached : Reaches topology.outgoing start target
  · obtain ⟨first, isFirst⟩ := exists_firstChain known reached
    rw [findPath_of_firstChain known isFirst] at found
    rw [← Except.ok.inj found]
    exact isFirst
  · rw [findPath_of_not_reaches known reached] at found
    cases found

theorem exists_findPath_iff (known : topology.Known) :
    (∃ path, topology.findPath start target = .ok path) ↔
      Reaches topology.outgoing start target := by
  simp only [findPath_eq_ok_iff known]
  constructor
  · rintro ⟨path, first⟩
    exact ⟨path, first.chain⟩
  · exact exists_firstChain known

/-- Only the links within reach of the start decide about a path. -/
theorem findPath_congr
    {other : Topology}
    (known : topology.Known)
    (otherKnown : other.Known)
    (agree :
      ∀ entity, Reaches topology.outgoing start entity →
        other.outgoing entity = topology.outgoing entity) :
    other.findPath start target = topology.findPath start target := by
  by_cases reached : Reaches topology.outgoing start target
  · obtain ⟨path, first⟩ := exists_firstChain known reached
    rw [findPath_of_firstChain known first,
      findPath_of_firstChain otherKnown ((firstChain_congr agree).mpr first)]
  · have otherUnreached : ¬ Reaches other.outgoing start target := by
      rintro ⟨path, chain⟩
      exact reached ⟨path, (chain_congr agree).mp chain⟩
    rw [findPath_of_not_reaches known reached, findPath_of_not_reaches otherKnown otherUnreached]

theorem findPath_self (known : topology.Known) (start : Entity) :
    topology.findPath start start = .ok [] :=
  findPath_of_firstChain known (firstChain_nil start)

end FindPath

/-! ## Positions among all pushes -/

/-- Dropping elements keeps the order of those that stay. -/
private theorem idxOf_filter_lt_iff
    {keep : Link → Bool}
    {links : List Link}
    {left right : Link}
    (leftKept : keep left = true)
    (rightKept : keep right = true) :
    (links.filter keep).idxOf left < (links.filter keep).idxOf right ↔
      links.idxOf left < links.idxOf right := by
  induction links with
  | nil => simp
  | cons link rest inductionHypothesis =>
      by_cases kept : keep link = true
      · rw [List.filter_cons_of_pos kept]
        by_cases isLeft : link = left
        · subst isLeft
          by_cases same : link = right
          · subst same
            simp
          · simp [List.idxOf_cons_ne _ same]
        · by_cases isRight : link = right
          · subst isRight
            simp
          · simp [List.idxOf_cons_ne _ isLeft, List.idxOf_cons_ne _ isRight, inductionHypothesis]
      · have notLeft : link ≠ left := fun same => kept (same ▸ leftKept)
        have notRight : link ≠ right := fun same => kept (same ▸ rightKept)
        rw [List.filter_cons_of_neg kept]
        simp [List.idxOf_cons_ne _ notLeft, List.idxOf_cons_ne _ notRight, inductionHypothesis]

/-- Self links, which no chain takes, do not matter for the order of chains. -/
theorem positions_pushedFrom_lt_iff
    {pushes : List Hop}
    {start leftEnd rightEnd : Entity}
    {left right : List Link}
    (leftChain : Chain (joinsFrom pushes) start left leftEnd)
    (rightChain : Chain (joinsFrom pushes) start right rightEnd) :
    positions (pushedFrom pushes) start left < positions (pushedFrom pushes) start right ↔
      positions (joinsFrom pushes) start left < positions (joinsFrom pushes) start right := by
  induction left generalizing start right with
  | nil => cases right <;> simp [positions]
  | cons link rest inductionHypothesis =>
      cases right with
      | nil => simp [positions]
      | cons other otherRest =>
          obtain ⟨member, restChain⟩ := leftChain
          obtain ⟨otherMember, otherChain⟩ := rightChain
          obtain ⟨pushed, kept⟩ := List.mem_filter.mp member
          obtain ⟨-, otherKept⟩ := List.mem_filter.mp otherMember
          simp only [positions, List.cons_lt_cons_iff, List.idxOf_inj member,
            List.idxOf_inj pushed]
          rw [joinsFrom, idxOf_filter_lt_iff kept otherKept]
          refine or_congr_right (and_congr_right fun same => ?_)
          subst same
          exact inductionHypothesis restChain otherChain

/-- A first chain over pushed joins is a shortest join. -/
theorem shortestJoin_of_firstChain
    {pushes : List Hop}
    {start target : Entity}
    {path : List Link}
    (first : FirstChain (joinsFrom pushes) start target path) :
    ShortestJoin pushes start target path where
  chain := first.chain
  distinct := first.nodup
  shortest other otherChain := length_le_of_rank_le (first.least other otherChain)
  earliest other otherChain sameLength := by
    apply le_of_not_gt
    rw [positions_pushedFrom_lt_iff otherChain first.chain]
    exact not_lt_of_ge (positions_le_of_rank_le sameLength (first.least other otherChain))

/-- The path from a start to a target, for any pushes: it is empty if the target
is the start, it exists just if pushed joins lead there, it is a shortest join,
and neither the root nor the order of pushes from different sources matters. -/
theorem findPath_ofPushes
    (root : Entity)
    (pushes : List Hop)
    (start target : Entity) :
    (start = target → (ofPushes root pushes).findPath start target = .ok []) ∧
    ((∃ path, (ofPushes root pushes).findPath start target = .ok path) ↔
      Reaches (joinsFrom pushes) start target) ∧
    (¬ Reaches (joinsFrom pushes) start target →
      (ofPushes root pushes).findPath start target = .error (.pathNotFound start target)) ∧
    (∀ path, (ofPushes root pushes).findPath start target = .ok path →
      ShortestJoin pushes start target path) ∧
    (∀ otherRoot others,
      (∀ source, pushedFrom others source = pushedFrom pushes source) →
      (ofPushes otherRoot others).findPath start target =
        (ofPushes root pushes).findPath start target) := by
  have known := known_ofPushes root pushes
  rw [← outgoing_ofPushes root pushes]
  refine ⟨?_, exists_findPath_iff known, findPath_of_not_reaches known, ?_, ?_⟩
  · rintro rfl
    exact findPath_self known start
  · intro path found
    have first := (findPath_eq_ok_iff known).mp found
    rw [outgoing_ofPushes] at first
    exact shortestJoin_of_firstChain first
  · intro otherRoot others sameOrder
    apply findPath_congr known (known_ofPushes otherRoot others)
    intro entity _
    rw [outgoing_ofPushes, outgoing_ofPushes, joinsFrom, joinsFrom, sameOrder]

/-- An entity named by one letter. -/
def lettered (letter : Char) : Entity :=
  ⟨none, ⟨[.char letter]⟩, none⟩

/-- A join to an entity named by one letter. -/
def joinTo (letter : Char) : Link :=
  ⟨none, some ⟨[.char 'i']⟩, lettered letter, some ⟨[.char 'j']⟩⟩

-- Of two equally short paths the one over `c` is taken, since `a` was joined to
-- `c` first; that `b` was joined to `d` before does not matter.
example :
    (ofPushes (lettered 'a')
      [⟨lettered 'b', joinTo 'd'⟩, ⟨lettered 'a', joinTo 'c'⟩, ⟨lettered 'c', joinTo 'd'⟩,
       ⟨lettered 'a', joinTo 'b'⟩, ⟨lettered 'd', joinTo 'a'⟩]).findPath
        (lettered 'a') (lettered 'd') =
      .ok [joinTo 'c', joinTo 'd'] := by
  cbv

end LinkedQuery.Topology
