import LinkedQuery.Proofs.Topology.Arena

/-!
Contract: the paths of the arena are those of the topology.

Owns:
- names of places, under which edges are hops and arrivals are visits;
- the scan of a place as the meeting of an entity's links, and the search as the
  traversal up to the goal;
- the walk back over arrivals as the trace back through visits.

Does not own: what either of them keeps on its own.
-/

namespace LinkedQuery.Arena

open Traversal LinkedQuery.Topology

/-! ## Names -/

/-- Names of the first places, under which each edge leads to the entity of its
link. -/
structure Named (name : Nat → Entity) (size : Nat) (edges : List Edge) : Prop where
  apart : ∀ left < size, ∀ right < size, name left = name right → left = right
  inside : ∀ edge ∈ edges, edge.source < size ∧ edge.target < size
  target : ∀ edge ∈ edges, name edge.target = edge.link.entity

/-- The hop that an edge is. -/
def hopOf (name : Nat → Entity) (edge : Edge) : Hop :=
  ⟨name edge.source, edge.link⟩

/-- The visit that an arrival is. -/
def visitOf (name : Nat → Entity) (arrival : Nat × Option Edge) : Visit :=
  ⟨name arrival.1, arrival.2.map (hopOf name)⟩

/-- The links of the edges that leave an entity. -/
def linksOf (name : Nat → Entity) (edges : List Edge) (entity : Entity) : List Link :=
  ((edges.map (hopOf name)).filter (·.source == entity)).map Hop.link

/-- Whether the places that were not met are those with unseen names. -/
def Unseen (name : Nat → Entity) (size : Nat) (known : Arrivals) (unseen : List Entity) : Prop :=
  ∀ place < size, name place ∈ unseen ↔ place ∉ met known

variable {name : Nat → Entity} {size : Nat} {edges : List Edge} {known : Arrivals}
  {unseen : List Entity} {origin goal current place : Nat}

/-! ## Searching -/

theorem Unseen.filter
    (agrees : Unseen name size known unseen)
    (named : Named name size edges)
    {edge : Edge}
    (member : edge ∈ edges) :
    Unseen name size (known ++ [(edge.target, some edge)])
      (unseen.filter (· != edge.link.entity)) := by
  intro place inside
  have same : name place = edge.link.entity ↔ place = edge.target := by
    rw [← named.target edge member]
    exact ⟨named.apart place inside _ (named.inside edge member).2, congrArg name⟩
  simp [met, List.mem_filter, agrees place inside, same]

/-- Scanning the edges of a place meets the links of the entity that stands there. -/
theorem meet_linksOf
    {some : List Edge}
    (named : Named name size edges)
    (inside : current < size)
    (included : some ⊆ edges)
    (agrees : Unseen name size known unseen) :
    (meet (name current) (linksOf name some (name current)) unseen).1 =
        (scan current known some).map (visitOf name) ∧
      Unseen name size (known ++ scan current known some)
        (meet (name current) (linksOf name some (name current)) unseen).2 := by
  induction some generalizing known unseen with
  | nil => exact ⟨rfl, by rwa [scan, List.append_nil]⟩
  | cons edge rest inductionHypothesis =>
      obtain ⟨member, restIncluded⟩ := List.cons_subset.mp included
      obtain ⟨sourceInside, targetInside⟩ := named.inside edge member
      have isUnseen : edge.link.entity ∈ unseen ↔ known.lookup edge.target = none := by
        rw [← named.target edge member, agrees _ targetInside, lookup_eq_none_iff_not_met]
      rw [scan]
      by_cases leaves : edge.source = current
      · have links_eq : linksOf name (edge :: rest) (name current) =
            edge.link :: linksOf name rest (name current) := by
          simp [linksOf, hopOf, leaves]
        rw [links_eq, meet]
        by_cases fresh : known.lookup edge.target = none
        · obtain ⟨visits_eq, left_agrees⟩ :=
            inductionHypothesis restIncluded (agrees.filter named member)
          rw [if_pos (by simpa using isUnseen.mpr fresh), if_pos ⟨leaves, fresh⟩]
          refine ⟨?_, ?_⟩
          · rw [List.map_cons, ← visits_eq, visitOf, named.target edge member, Option.map_some,
              hopOf, leaves]
          · rw [← List.singleton_append, ← List.append_assoc]
            exact left_agrees
        · rw [if_neg (by simpa using mt isUnseen.mp fresh), if_neg fun both => fresh both.2]
          exact inductionHypothesis restIncluded agrees
      · have links_eq : linksOf name (edge :: rest) (name current) =
            linksOf name rest (name current) := by
          have differs : name edge.source ≠ name current :=
            fun same => leaves (named.apart _ sourceInside _ inside same)
          simp [linksOf, hopOf, differs]
        rw [links_eq, if_neg fun both => leaves both.1]
        exact inductionHypothesis restIncluded agrees

/-- A traversal makes the visits in its queue first. -/
theorem exists_walk_eq (next : Entity → List Link) (unseen : List Entity) (queue : List Visit) :
    ∃ more, walk next unseen queue = queue ++ more := by
  fun_induction walk next unseen queue with
  | case1 => exact ⟨[], rfl⟩
  | case2 unseen visit rest met inductionHypothesis =>
      obtain ⟨more, walked⟩ := inductionHypothesis
      exact ⟨met.1 ++ more, by rw [walked, List.append_assoc, List.cons_append]⟩

/-- The places that were met are among the first. -/
theorem Noted.inside
    (noted : Noted edges origin known)
    (named : Named name size edges)
    (originInside : origin < size) :
    ∀ place ∈ met known, place < size := by
  induction noted with
  | origin =>
      intro place member
      obtain rfl := List.mem_singleton.mp member
      exact originInside
  | @along known edge before member sourceMet fresh inductionHypothesis =>
      intro place placeMet
      rw [met, List.map_append] at placeMet
      rcases List.mem_append.mp placeMet with earlier | last
      · exact inductionHypothesis place earlier
      · obtain rfl := List.mem_singleton.mp last
        exact (named.inside edge member).2

/-- The arrivals of a search are the visits of the traversal, up to the goal if it is
met. -/
theorem visits_search
    (named : Named name size edges)
    (originInside : origin < size)
    {waiting done : Arrivals}
    (noted : Noted edges origin (done ++ waiting))
    (agrees : Unseen name size (done ++ waiting) unseen) :
    ∃ later,
      done.map (visitOf name) ++ walk (linksOf name edges) unseen (waiting.map (visitOf name)) =
        (search edges goal (done ++ waiting) (met waiting)).map (visitOf name) ++ later ∧
      (goal ∉ met (search edges goal (done ++ waiting) (met waiting)) → later = []) := by
  generalize known_eq : done ++ waiting = known at noted agrees ⊢
  generalize queue_eq : met waiting = queue
  fun_induction search edges goal known queue generalizing done waiting unseen with
  | case1 known =>
      obtain rfl := List.map_eq_nil_iff.mp queue_eq
      rw [List.append_nil] at known_eq
      refine ⟨[], ?_, fun _ => rfl⟩
      rw [known_eq, List.map_nil, walk]
  | case2 known rest =>
      obtain ⟨more, walked⟩ :=
        exists_walk_eq (linksOf name edges) unseen (waiting.map (visitOf name))
      refine ⟨more, ?_, fun unmet => ?_⟩
      · rw [walked, ← known_eq, List.map_append, List.append_assoc]
      · refine absurd ?_ unmet
        rw [← known_eq, met, List.map_append, ← met, ← met, queue_eq]
        exact List.mem_append_right _ List.mem_cons_self
  | case3 known current rest differs fresh =>
      rename_i inductionHypothesis
      obtain ⟨entry, others, rfl, rfl, rfl⟩ := List.map_eq_cons_iff.mp queue_eq
      have currentMet : entry.1 ∈ met known := by
        rw [← known_eq, met, List.map_append]
        exact List.mem_append_right _ List.mem_cons_self
      have currentInside := noted.inside named originInside _ currentMet
      obtain ⟨visits_eq, left_agrees⟩ :=
        meet_linksOf named currentInside (List.Subset.refl edges) agrees
      obtain ⟨later, walked, ended⟩ :=
        @inductionHypothesis _ (others ++ scan entry.1 known edges) (done ++ [entry])
          (by simp [← known_eq, fresh]) (noted.scan currentMet (List.Subset.refl edges)) left_agrees
          List.map_append
      refine ⟨later, ?_, ended⟩
      rw [← walked, List.map_cons, walk, List.map_append, List.append_assoc, List.map_append,
        ← visits_eq]
      rfl

/-! ## Walking back -/

/-- There is one walk back from a place. -/
theorem WalksBack.unique
    {last otherLast : Nat}
    {back other : List Edge}
    (walk : WalksBack known place back last)
    (otherWalk : WalksBack known place other otherLast) :
    back = other := by
  induction walk generalizing other with
  | stop unmet =>
      cases otherWalk with
      | stop _ => rfl
      | back arrival _ => cases unmet.symm.trans arrival
  | back arrival rest inductionHypothesis =>
      cases otherWalk with
      | stop unmet => cases unmet.symm.trans arrival
      | back otherArrival otherRest =>
          obtain rfl := Option.some.inj (Option.some.inj (arrival.symm.trans otherArrival))
          rw [inductionHypothesis otherRest]

/-- Walking back over arrivals traces back through their visits. -/
theorem traceBack_of_walksBack
    (named : Named name size edges)
    (originInside : origin < size)
    (noted : Noted edges origin known)
    {back : List Edge}
    (walk : WalksBack known place back origin) :
    traceBack (known.map (visitOf name)).reverse (name place) =
      some (back.map Edge.link).reverse := by
  induction noted generalizing place back with
  | origin =>
      cases walk with
      | stop unmet => simp [traceBack, visitOf]
      | back arrival rest =>
          rw [List.lookup_cons] at arrival
          split at arrival <;> cases arrival
  | @along known edge before member sourceMet fresh inductionHypothesis =>
      obtain ⟨arrival, found⟩ := walk.exists_arrival
      rw [List.map_append, List.reverse_append, List.map_singleton, List.reverse_singleton,
        List.singleton_append, traceBack]
      rcases (lookup_concat_iff fresh).mp found with earlier | ⟨rfl, rfl⟩
      · have placeMet := mem_met_of_lookup earlier
        have differs : name edge.target ≠ name place := by
          intro same
          have isTarget := named.apart _ (named.inside edge member).2 _
            (before.inside named originInside place placeMet) same
          exact lookup_eq_none_iff_not_met.mp fresh (isTarget ▸ placeMet)
        obtain ⟨earlierBack, earlierWalk, -⟩ := before.exists_walksBack placeMet
        rw [walk.unique (earlierWalk.append _)]
        exact (if_neg differs).trans (inductionHypothesis earlierWalk)
      · cases walk with
        | stop unmet => cases unmet.symm.trans found
        | back arrival rest =>
            obtain rfl := Option.some.inj (Option.some.inj (found.symm.trans arrival))
            obtain ⟨earlierBack, earlierWalk, -⟩ := before.exists_walksBack sourceMet
            rw [rest.unique (earlierWalk.append _)]
            refine (if_pos rfl).trans ?_
            show (traceBack _ (name edge.source)).map (· ++ [edge.link]) = _
            rw [inductionHypothesis earlierWalk, List.map_cons, List.reverse_cons]
            rfl

/-! ## The path -/

variable {arena : Arena} {topology : Topology} {start target : Entity}

/-- The names of the places of an arena. -/
def nameIn (nodes : List Entity) (other : Entity) (place : Nat) : Entity :=
  nodes[place]?.getD other

theorem nameIn_of_getElem?
    {nodes : List Entity}
    {entity : Entity}
    (stands : nodes[place]? = some entity)
    (other : Entity) :
    nameIn nodes other place = entity := by
  rw [nameIn, stands]
  rfl

/-- The edges of an arena are the hops of the topology. -/
theorem Consistent.hops_eq (consistent : Consistent arena topology) (other : Entity) :
    topology.hops = arena.edges.map (hopOf (nameIn arena.nodes other)) := by
  have same {edge : Edge} {hop : Hop} (joins : Joins arena.nodes edge hop) :
      hopOf (nameIn arena.nodes other) edge = hop := by
    rw [hopOf, nameIn_of_getElem? joins.source, joins.link]
  have mapped := List.forall₂_map_left_iff.mpr (consistent.joined.imp fun _ _ => same)
  rw [List.forall₂_eq_eq_eq] at mapped
  exact mapped.symm

theorem Consistent.exists_joins (consistent : Consistent arena topology) :
    ∀ edge ∈ arena.edges, ∃ hop, Joins arena.nodes edge hop :=
  ((List.forall₂_and_left _ _).mp
    (consistent.joined.imp fun _ hop joins => ⟨⟨hop, joins⟩, joins⟩)).1

theorem Consistent.named (consistent : Consistent arena topology) (other : Entity) :
    Named (nameIn arena.nodes other) arena.nodes.length arena.edges where
  apart := by
    intro left leftInside right rightInside same
    rw [nameIn_of_getElem? (List.getElem?_eq_getElem leftInside),
      nameIn_of_getElem? (List.getElem?_eq_getElem rightInside)] at same
    exact consistent.distinct.getElem_inj_iff.mp same
  inside := by
    intro edge member
    obtain ⟨hop, joins⟩ := consistent.exists_joins edge member
    exact ⟨(List.getElem?_eq_some_iff.mp joins.source).1,
      (List.getElem?_eq_some_iff.mp joins.target).1⟩
  target := by
    intro edge member
    obtain ⟨hop, joins⟩ := consistent.exists_joins edge member
    rw [nameIn_of_getElem? joins.target, joins.link]
    rfl

theorem Consistent.linksOf_eq (consistent : Consistent arena topology) (other : Entity) :
    linksOf (nameIn arena.nodes other) arena.edges = topology.outgoing := by
  funext entity
  rw [linksOf, outgoing, consistent.hops_eq other]

/-- Links join known entities. -/
theorem Consistent.mem_nodes_of_outgoing
    (consistent : Consistent arena topology)
    {entity : Entity}
    {link : Link}
    (member : link ∈ topology.outgoing entity) :
    entity ∈ arena.nodes ∧ link.entity ∈ arena.nodes := by
  rw [← consistent.linksOf_eq entity] at member
  obtain ⟨hop, hopMember, rfl⟩ := List.mem_map.mp member
  obtain ⟨edgeMember, leaves⟩ := List.mem_filter.mp hopMember
  obtain ⟨edge, inEdges, rfl⟩ := List.mem_map.mp edgeMember
  obtain ⟨hop, joins⟩ := consistent.exists_joins edge inEdges
  have source_eq : nameIn arena.nodes entity edge.source = entity := by simpa [hopOf] using leaves
  rw [nameIn_of_getElem? joins.source] at source_eq
  have target_eq : edge.link.entity = hop.target := congrArg Link.entity joins.link
  exact ⟨source_eq ▸ List.mem_of_getElem? joins.source,
    target_eq ▸ List.mem_of_getElem? joins.target⟩

/-- Only known entities reach others. -/
theorem Consistent.known_of_reaches
    (consistent : Consistent arena topology)
    (reached : Reaches topology.outgoing start target)
    (differs : start ≠ target) :
    start ∈ arena.nodes ∧ target ∈ arena.nodes := by
  obtain ⟨path, chain⟩ := reached
  cases path with
  | nil => exact absurd chain differs
  | cons link rest =>
      obtain ⟨member, restChain⟩ := chain
      obtain ⟨startKnown, linkKnown⟩ := consistent.mem_nodes_of_outgoing member
      refine ⟨startKnown, ?_⟩
      exact Reaches.keeps ⟨rest, restChain⟩ (· ∈ arena.nodes) linkKnown
        fun entity _ link leaves => (consistent.mem_nodes_of_outgoing leaves).2

/-- The visits of the topology are the arrivals of the arena, up to the goal if it is
met. -/
theorem Consistent.visitsFrom_eq
    (consistent : Consistent arena topology)
    (stands : arena.nodes[origin]? = some start)
    (goal : Nat) :
    ∃ later,
      topology.visitsFrom start =
        (arena.arrivals origin goal).map (visitOf (nameIn arena.nodes start)) ++ later ∧
      (goal ∉ met (arena.arrivals origin goal) → later = []) := by
  have named := consistent.named start
  have originInside := (List.getElem?_eq_some_iff.mp stands).1
  have agrees :
      Unseen (nameIn arena.nodes start) arena.nodes.length ([] ++ [(origin, none)])
        (topology.entities.filter (· != start)) := by
    intro place inside
    have listed := List.getElem?_eq_getElem inside
    have isStart : nameIn arena.nodes start place = start ↔ place = origin := by
      constructor
      · intro same
        apply named.apart place inside origin originInside
        rw [same, nameIn_of_getElem? stands]
      · rintro rfl
        exact nameIn_of_getElem? stands start
    have isKnown : nameIn arena.nodes start place ∈ topology.entities := by
      rw [nameIn_of_getElem? listed, ← consistent.entities]
      exact List.getElem_mem inside
    simp [met, List.mem_filter, isKnown, isStart]
  have startVisit :
      [(origin, none)].map (visitOf (nameIn arena.nodes start)) = [⟨start, none⟩] := by
    rw [List.map_singleton, visitOf, nameIn_of_getElem? stands]
    rfl
  obtain ⟨later, walked, ended⟩ := visits_search named originInside Noted.origin agrees
  rw [startVisit, consistent.linksOf_eq] at walked
  exact ⟨later, walked, ended⟩

theorem nodup_visitsFrom (known : topology.Known) (start : Entity) :
    ((topology.visitsFrom start).map Visit.entity).Nodup := by
  obtain ⟨all, visited, exploration⟩ := exists_exploration (known.closed start)
  rw [visitsFrom, visited, List.map_map]
  exact exploration.discovered.nodup

theorem traceBack_append
    {front : List Visit}
    (unmet : target ∉ front.map Visit.entity)
    (back : List Visit) :
    traceBack (front ++ back) target = traceBack back target := by
  induction front with
  | nil => rfl
  | cons visit rest inductionHypothesis =>
      simp only [List.map_cons, List.mem_cons, not_or] at unmet
      rw [List.cons_append, traceBack, if_neg (Ne.symm unmet.1)]
      exact inductionHypothesis unmet.2

section Met

variable
  (consistent : Consistent arena topology)
  (startStands : arena.nodes[origin]? = some start)
  (targetStands : arena.nodes[goal]? = some target)

include consistent startStands targetStands

/-- At a goal that was met the walk back gives the path of the topology. -/
theorem Consistent.exists_walkBack
    (known : topology.Known)
    {arrival : Option Edge}
    (found : (arena.arrivals origin goal).lookup goal = some arrival) :
    ∃ path,
      walkBack (arena.arrivals origin goal) (arena.arrivals origin goal).length arrival [] =
        some path ∧
      topology.findPath start target = .ok path := by
  have named := consistent.named start
  have originInside := (List.getElem?_eq_some_iff.mp startStands).1
  have noted := noted_arrivals arena origin goal
  have goalMet := mem_met_of_lookup found
  obtain ⟨later, visits_eq, -⟩ := consistent.visitsFrom_eq startStands goal
  obtain ⟨back, walk, ordered⟩ := noted.exists_walksBack goalMet
  have traced := traceBack_of_walksBack named originInside noted walk
  rw [nameIn_of_getElem? targetStands] at traced
  have notLater : target ∉ later.reverse.map Visit.entity := by
    have distinct := nodup_visitsFrom known start
    rw [visits_eq, List.map_append, List.nodup_append] at distinct
    intro again
    obtain ⟨entry, member, rfl⟩ := List.mem_map.mp goalMet
    refine distinct.2.2 target ?_ target (by simpa using again) rfl
    rw [List.map_map]
    exact List.mem_map.mpr ⟨entry, member, nameIn_of_getElem? targetStands start⟩
  refine ⟨_, walk.walkBack_eq found (length_lt_of_ordered ordered).le [], ?_⟩
  rw [Topology.findPath, visits_eq, List.reverse_append, traceBack_append notLater, traced,
    List.append_nil]

/-- There is no path of the topology to a goal that was not met. -/
theorem Consistent.findPath_of_not_met
    (unmet : (arena.arrivals origin goal).lookup goal = none) :
    topology.findPath start target = .error (.pathNotFound start target) := by
  have named := consistent.named start
  have originInside := (List.getElem?_eq_some_iff.mp startStands).1
  have goalInside := (List.getElem?_eq_some_iff.mp targetStands).1
  have noted := noted_arrivals arena origin goal
  have goalUnmet := lookup_eq_none_iff_not_met.mp unmet
  obtain ⟨later, visits_eq, ended⟩ := consistent.visitsFrom_eq startStands goal
  have notVisited :
      target ∉ ((arena.arrivals origin goal).map
        (visitOf (nameIn arena.nodes start))).reverse.map Visit.entity := by
    intro visited
    rw [List.map_reverse, List.mem_reverse, List.map_map] at visited
    obtain ⟨entry, member, isTarget⟩ := List.mem_map.mp visited
    have entryMet : entry.1 ∈ met (arena.arrivals origin goal) := List.mem_map_of_mem member
    have isGoal := named.apart entry.1 (noted.inside named originInside _ entryMet) goal goalInside
      (isTarget.trans (nameIn_of_getElem? targetStands start).symm)
    exact goalUnmet (isGoal ▸ entryMet)
  rw [Topology.findPath, visits_eq, ended goalUnmet, List.append_nil,
    traceBack_of_not_mem notVisited]

end Met

/-- The arena finds the path of the topology, and walks back without fail. -/
theorem Consistent.findPath_eq
    (consistent : Consistent arena topology)
    (known : topology.Known)
    (start target : Entity) :
    arena.findPath start target = some (topology.findPath start target) := by
  unfold Arena.findPath
  by_cases same : start = target
  · subst same
    rw [if_pos rfl, findPath_self known]
  rw [if_neg same]
  cases startFound : arena.places.lookup start with
  | none =>
      have unreached : ¬ Reaches topology.outgoing start target := fun reached =>
        consistent.lookup_eq_none_iff.mp startFound (consistent.known_of_reaches reached same).1
      rw [findPath_of_not_reaches known unreached]
  | some origin =>
      cases targetFound : arena.places.lookup target with
      | none =>
          have unreached : ¬ Reaches topology.outgoing start target := fun reached =>
            consistent.lookup_eq_none_iff.mp targetFound
              (consistent.known_of_reaches reached same).2
          rw [findPath_of_not_reaches known unreached]
      | some goal =>
          have startStands := (consistent.placed start origin).mp startFound
          have targetStands := (consistent.placed target goal).mp targetFound
          dsimp only
          cases found : (arena.arrivals origin goal).lookup goal with
          | some arrival =>
              obtain ⟨path, walked, isPath⟩ :=
                consistent.exists_walkBack startStands targetStands known found
              dsimp only
              rw [walked, isPath]
              rfl
          | none => rw [consistent.findPath_of_not_met startStands targetStands found]

/-! ## The arena after any pushes -/

/-- After any pushes the entities of the arena are distinct and the root is the first,
each is found at its own place and nothing else is, the edges are the pushed hops
that are no self links in their order, each between the places of its ends, and
self links change nothing.  Whatever a search from one place notes, from every place
that it met the walk back passes only places that it met, the later before the
earlier, and ends at the origin after as many edges as it has.  So the path is always
found, or known not to be there, and it is that of the topology. -/
theorem ofPushes_consistent (root : Entity) (pushes : List Hop) :
    (ofPushes root pushes).nodes.Nodup ∧
    (ofPushes root pushes).nodes.head? = some root ∧
    (∀ entity place,
      (ofPushes root pushes).places.lookup entity = some place ↔
        (ofPushes root pushes).nodes[place]? = some entity) ∧
    List.Forall₂ (Joins (ofPushes root pushes).nodes) (ofPushes root pushes).edges
      (pushes.filter (!·.link.isSelf)) ∧
    ofPushes root (pushes.filter (!·.link.isSelf)) = ofPushes root pushes ∧
    (∀ origin goal place arrival,
      ((ofPushes root pushes).arrivals origin goal).lookup place = some arrival →
        ∃ back,
          WalksBack ((ofPushes root pushes).arrivals origin goal) place back origin ∧
          List.Sublist (place :: back.map Edge.source).reverse
            (met ((ofPushes root pushes).arrivals origin goal)) ∧
          ∀ bound, back.length ≤ bound →
            walkBack ((ofPushes root pushes).arrivals origin goal) bound arrival [] =
              some (back.map Edge.link).reverse) ∧
    ∀ start target,
      (ofPushes root pushes).findPath start target =
        some ((Topology.ofPushes root pushes).findPath start target) := by
  have consistent := consistent_ofPushes root pushes
  refine ⟨consistent.distinct, head?_nodes_ofPushes root pushes, consistent.placed, ?_,
    ofPushes_filter root pushes, ?_, consistent.findPath_eq (known_ofPushes root pushes)⟩
  · rw [← hops_ofPushes root pushes]
    exact consistent.joined
  · intro origin goal place arrival found
    obtain ⟨back, walk, ordered⟩ :=
      (noted_arrivals (ofPushes root pushes) origin goal).exists_walksBack
        (mem_met_of_lookup found)
    refine ⟨back, walk, ordered, ?_⟩
    intro bound bounded
    rw [walk.walkBack_eq found bounded, List.append_nil]

end LinkedQuery.Arena
