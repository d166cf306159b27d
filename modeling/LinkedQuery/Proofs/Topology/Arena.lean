import LinkedQuery.Proofs.Topology.ShortestPath
import LinkedQuery.Topology.Arena

/-!
Contract: the arena stays consistent, and its paths are those of the topology.

Owns:
- the arena after any pushes: its entities, their places and its edges, with what
  one push keeps;
- the arrivals of a search, each of which leaves a place that was met before, and
  the walk back that ends because of this;
- the search place by place as the traversal entity by entity.

Does not own: what the path of a topology means.
-/

namespace LinkedQuery.Arena

open Traversal

/-- The arena after some hops were pushed one after the other. -/
def ofPushes (root : Entity) (pushes : List Hop) : Arena :=
  pushes.foldl (fun arena hop => arena.push hop.source hop.link) (rooted root)

/-- An edge that stands for a hop: it has its link, and its places are those of the
ends of the hop. -/
structure Joins (nodes : List Entity) (edge : Edge) (hop : Hop) : Prop where
  link : edge.link = hop.link
  source : nodes[edge.source]? = some hop.source
  target : nodes[edge.target]? = some hop.target

/-- An arena whose entities are distinct and have their own places. -/
structure Placed (arena : Arena) : Prop where
  distinct : arena.nodes.Nodup
  placed : ∀ entity place,
    arena.places.lookup entity = some place ↔ arena.nodes[place]? = some entity

/-- An arena that knows what a topology knows. -/
structure Consistent (arena : Arena) (topology : Topology) : Prop extends arena.Placed where
  entities : arena.nodes = topology.entities
  joined : List.Forall₂ (Joins arena.nodes) arena.edges topology.hops

variable {arena : Arena} {topology : Topology} {entity : Entity}

/-! ## Look-ups -/

section Lookup

variable {κ β : Type} [DecidableEq κ] {known : List (κ × β)} {key other : κ} {value result : β}

/-- What is found after a new key was noted. -/
theorem lookup_concat_iff (fresh : known.lookup key = none) :
    (known ++ [(key, value)]).lookup other = some result ↔
      known.lookup other = some result ∨ (other = key ∧ result = value) := by
  rw [List.lookup_append]
  by_cases same : other = key
  · simp [same, fresh, eq_comm]
  · simp [same, List.lookup_cons, beq_eq_false_iff_ne.mpr same]

theorem getElem?_concat_iff {values : List β} {place : Nat} :
    (values ++ [value])[place]? = some result ↔
      values[place]? = some result ∨ (result = value ∧ place = values.length) := by
  rcases Nat.lt_trichotomy place values.length with before | rfl | after
  · rw [List.getElem?_append_left before]
    simp [Nat.ne_of_lt before]
  · simp [eq_comm]
  · have absent : (values ++ [value])[place]? = none := by
      rw [List.getElem?_eq_none_iff, List.length_append, List.length_singleton]
      exact after
    have absentBefore : values[place]? = none := List.getElem?_eq_none_iff.mpr (by omega)
    simp [absent, absentBefore, Nat.ne_of_gt after]

end Lookup

/-! ## One push -/

/-- An entity has a place just if it is known. -/
theorem Placed.lookup_eq_none_iff (placed : arena.Placed) :
    arena.places.lookup entity = none ↔ entity ∉ arena.nodes := by
  rw [List.mem_iff_getElem?, Option.eq_none_iff_forall_ne_some]
  simp only [ne_eq, placed.placed, not_exists]

theorem nodes_node (placed : arena.Placed) (entity : Entity) :
    (arena.node entity).2.nodes = Topology.addEntity arena.nodes entity := by
  unfold node Topology.addEntity
  cases found : arena.places.lookup entity with
  | some place =>
      have member : entity ∈ arena.nodes :=
        List.mem_of_getElem? ((placed.placed entity place).mp found)
      simp [member]
  | none =>
      have unknown := placed.lookup_eq_none_iff.mp found
      simp [unknown]

theorem edges_node (arena : Arena) (entity : Entity) :
    (arena.node entity).2.edges = arena.edges := by
  unfold node
  cases arena.places.lookup entity <;> rfl

/-- Known entities keep their places. -/
theorem getElem?_nodes_node
    (arena : Arena)
    (added : Entity)
    {place : Nat}
    (stands : arena.nodes[place]? = some entity) :
    (arena.node added).2.nodes[place]? = some entity := by
  unfold node
  cases arena.places.lookup added with
  | some _ => exact stands
  | none =>
      have inside := (List.getElem?_eq_some_iff.mp stands).1
      show (arena.nodes ++ [added])[place]? = some entity
      rw [List.getElem?_append_left inside, stands]

/-- An entity stands at the place that it has or gets. -/
theorem getElem?_node (placed : arena.Placed) (entity : Entity) :
    (arena.node entity).2.nodes[(arena.node entity).1]? = some entity := by
  unfold node
  cases found : arena.places.lookup entity with
  | some place => exact (placed.placed entity place).mp found
  | none => exact List.getElem?_concat_length

theorem Placed.node (placed : arena.Placed) (added : Entity) : (arena.node added).2.Placed := by
  unfold Arena.node
  cases found : arena.places.lookup added with
  | some place => exact placed
  | none =>
      have unknown := placed.lookup_eq_none_iff.mp found
      constructor
      · refine List.nodup_append.mpr ⟨placed.distinct, List.nodup_singleton added, ?_⟩
        rintro entity member other isAdded rfl
        exact unknown (List.mem_singleton.mp isAdded ▸ member)
      · intro entity place
        show (arena.places ++ [(added, arena.nodes.length)]).lookup entity = some place ↔
          (arena.nodes ++ [added])[place]? = some entity
        rw [lookup_concat_iff found, getElem?_concat_iff, placed.placed]

theorem Joins.node
    {edge : Edge}
    {hop : Hop}
    (joins : Joins arena.nodes edge hop)
    (added : Entity) :
    Joins (arena.node added).2.nodes edge hop :=
  ⟨joins.link, getElem?_nodes_node arena added joins.source,
    getElem?_nodes_node arena added joins.target⟩

theorem placed_empty : (⟨[], [], []⟩ : Arena).Placed :=
  ⟨List.nodup_nil, by simp⟩

theorem consistent_rooted (root : Entity) : Consistent (rooted root) (.rooted root) where
  toPlaced := placed_empty.node root
  entities := rfl
  joined := .nil

/-- A link that is no self link becomes an edge between the places of its ends. -/
theorem push_of_join (arena : Arena) (source : Entity) {link : Link} (join : link.isSelf = false) :
    arena.push source link =
      let withSource := arena.node source
      let withTarget := withSource.2.node link.entity
      { withTarget.2 with
        edges := withTarget.2.edges ++ [⟨withSource.1, withTarget.1, link⟩] } := by
  rw [push, join, if_neg Bool.false_ne_true]

/-- A push keeps the places of entities. -/
theorem getElem?_nodes_push
    {place : Nat}
    (stands : arena.nodes[place]? = some entity)
    (source : Entity)
    (link : Link) :
    (arena.push source link).nodes[place]? = some entity := by
  cases isSelf : link.isSelf with
  | true => rwa [push, isSelf, if_pos rfl]
  | false =>
      rw [push_of_join arena source isSelf]
      exact getElem?_nodes_node _ _ (getElem?_nodes_node _ _ stands)

theorem Consistent.push (consistent : Consistent arena topology) (source : Entity) (link : Link) :
    Consistent (arena.push source link) (topology.push source link) := by
  cases isSelf : link.isSelf with
  | true => rwa [Arena.push, Topology.push, isSelf, if_pos rfl, if_pos rfl]
  | false =>
      have withSource := consistent.toPlaced.node source
      have withTarget := withSource.node link.entity
      have older :
          List.Forall₂ (Joins ((arena.node source).2.node link.entity).2.nodes)
            ((arena.node source).2.node link.entity).2.edges topology.hops := by
        rw [edges_node, edges_node]
        exact consistent.joined.imp fun edge hop joins => (joins.node source).node link.entity
      have newest :
          Joins ((arena.node source).2.node link.entity).2.nodes
            ⟨(arena.node source).1, ((arena.node source).2.node link.entity).1, link⟩
            ⟨source, link⟩ :=
        ⟨rfl, getElem?_nodes_node _ _ (getElem?_node consistent.toPlaced source),
          getElem?_node withSource link.entity⟩
      rw [push_of_join arena source isSelf, Topology.push, isSelf, if_neg Bool.false_ne_true]
      refine ⟨⟨withTarget.distinct, withTarget.placed⟩, ?_,
        List.rel_append older (.cons newest .nil)⟩
      show ((arena.node source).2.node link.entity).2.nodes = _
      rw [nodes_node withSource, nodes_node consistent.toPlaced, consistent.entities]

/-! ## Any pushes -/

theorem consistent_foldl
    (consistent : Consistent arena topology)
    (pushes : List Hop) :
    Consistent (pushes.foldl (fun arena hop => arena.push hop.source hop.link) arena)
      (pushes.foldl (fun topology hop => topology.push hop.source hop.link) topology) := by
  induction pushes generalizing arena topology with
  | nil => exact consistent
  | cons hop rest inductionHypothesis =>
      exact inductionHypothesis (consistent.push hop.source hop.link)

theorem consistent_ofPushes (root : Entity) (pushes : List Hop) :
    Consistent (ofPushes root pushes) (.ofPushes root pushes) :=
  consistent_foldl (consistent_rooted root) pushes

/-- The root stays first. -/
theorem head?_nodes_ofPushes (root : Entity) (pushes : List Hop) :
    (ofPushes root pushes).nodes.head? = some root := by
  rw [List.head?_eq_getElem?, ofPushes]
  have stands : (rooted root).nodes[0]? = some root := rfl
  generalize rooted root = arena at stands
  induction pushes generalizing arena with
  | nil => exact stands
  | cons hop rest inductionHypothesis =>
      exact inductionHypothesis _ (getElem?_nodes_push stands hop.source hop.link)

/-- Self links add nothing, wherever they stand among the pushes. -/
theorem ofPushes_filter (root : Entity) (pushes : List Hop) :
    ofPushes root (pushes.filter (!·.link.isSelf)) = ofPushes root pushes := by
  unfold ofPushes
  generalize rooted root = arena
  induction pushes generalizing arena with
  | nil => rfl
  | cons hop rest inductionHypothesis =>
      rw [List.filter_cons]
      split
      · exact inductionHypothesis _
      · rename_i isSelf
        have unchanged : arena.push hop.source hop.link = arena := by
          rw [push, if_pos (by simpa using isSelf)]
        rw [List.foldl_cons, unchanged]
        exact inductionHypothesis arena

/-! ## What a search notes -/

/-- The places that were met. -/
def met (known : Arrivals) : List Nat :=
  known.map Prod.fst

/-- Arrivals in order: the origin, then one after the other along an edge that leaves
a place met before, each at a new place. -/
inductive Noted (edges : List Edge) (origin : Nat) : Arrivals → Prop
  | origin : Noted edges origin [(origin, none)]
  | along
      {known : Arrivals}
      {edge : Edge}
      (before : Noted edges origin known)
      (member : edge ∈ edges)
      (sourceMet : edge.source ∈ met known)
      (fresh : known.lookup edge.target = none) :
      Noted edges origin (known ++ [(edge.target, some edge)])

variable {edges : List Edge} {origin goal current place : Nat} {known : Arrivals}

theorem lookup_eq_none_iff_not_met : known.lookup place = none ↔ place ∉ met known := by
  simp only [List.lookup_eq_none_iff, met, List.mem_map, not_exists, not_and, bne_iff_ne]
  exact forall₂_congr fun entry _ => ne_comm

theorem mem_met_of_lookup {arrival : Option Edge} (found : known.lookup place = some arrival) :
    place ∈ met known := by
  by_contra unmet
  rw [lookup_eq_none_iff_not_met.mpr unmet] at found
  cases found

/-- What the scan of one place keeps. -/
theorem Noted.scan
    {some : List Edge}
    (noted : Noted edges origin known)
    (currentMet : current ∈ met known)
    (included : some ⊆ edges) :
    Noted edges origin (known ++ scan current known some) := by
  induction some generalizing known with
  | nil => rwa [Arena.scan, List.append_nil]
  | cons edge rest inductionHypothesis =>
      have restIncluded := List.subset_of_cons_subset included
      rw [Arena.scan]
      split
      · rename_i fresh
        obtain ⟨leaves, isFresh⟩ := fresh
        have next := Noted.along noted (included List.mem_cons_self) (leaves ▸ currentMet) isFresh
        have stillMet : current ∈ met (known ++ [(edge.target, .some edge)]) := by
          rw [met, List.map_append]
          exact List.mem_append_left _ currentMet
        have later := inductionHypothesis next stillMet restIncluded
        rwa [List.append_assoc, List.singleton_append] at later
      · exact inductionHypothesis noted currentMet restIncluded

/-- What a whole search keeps. -/
theorem Noted.search
    {queue : List Nat}
    (noted : Noted edges origin known)
    (queueMet : queue ⊆ met known) :
    Noted edges origin (search edges goal known queue) := by
  fun_induction Arena.search edges goal known queue with
  | case1 => exact noted
  | case2 => exact noted
  | case3 known current rest differs fresh inductionHypothesis =>
      obtain ⟨currentMet, restMet⟩ := List.cons_subset.mp queueMet
      apply inductionHypothesis (noted.scan currentMet (List.Subset.refl edges))
      intro place member
      rw [met, List.map_append, List.mem_append]
      exact (List.mem_append.mp member).imp_left fun inRest => restMet inRest

theorem noted_arrivals (arena : Arena) (origin goal : Nat) :
    Noted arena.edges origin (arena.arrivals origin goal) :=
  Noted.origin.search (List.Subset.refl _)

/-! ## The walk back -/

/-- A walk back from a place along edges to a last place: each place on it has its
arrival, each edge is followed to the place that it leaves, and the last place was
met by none. -/
inductive WalksBack (known : Arrivals) : Nat → List Edge → Nat → Prop
  | stop
      {place : Nat}
      (arrival : known.lookup place = some none) :
      WalksBack known place [] place
  | back
      {place last : Nat}
      {edge : Edge}
      {edges : List Edge}
      (arrival : known.lookup place = some (some edge))
      (rest : WalksBack known edge.source edges last) :
      WalksBack known place (edge :: edges) last

theorem WalksBack.append
    {last : Nat}
    (walk : WalksBack known place edges last)
    (later : Arrivals) :
    WalksBack (known ++ later) place edges last := by
  have kept {place : Nat} {arrival : Option Edge} (found : known.lookup place = some arrival) :
      (known ++ later).lookup place = some arrival := by
    rw [List.lookup_append, found]
    rfl
  induction walk with
  | stop arrival => exact .stop (kept arrival)
  | back arrival rest inductionHypothesis => exact .back (kept arrival) inductionHypothesis

theorem WalksBack.exists_arrival
    {last : Nat}
    (walk : WalksBack known place edges last) :
    ∃ arrival, known.lookup place = some arrival := by
  cases walk with
  | stop arrival => exact ⟨_, arrival⟩
  | back arrival rest => exact ⟨_, arrival⟩

/-- The walk back follows its edges to the end, whatever it may pass beyond them. -/
theorem WalksBack.walkBack_eq
    {last bound : Nat}
    {arrival : Option Edge}
    (walk : WalksBack known place edges last)
    (found : known.lookup place = some arrival)
    (bounded : edges.length ≤ bound)
    (links : List Link) :
    walkBack known bound arrival links = some ((edges.map Edge.link).reverse ++ links) := by
  induction walk generalizing arrival links bound with
  | stop unmet =>
      obtain rfl := Option.some.inj (found.symm.trans unmet)
      rw [walkBack]
      rfl
  | @back place last edge edges along rest inductionHypothesis =>
      obtain rfl := Option.some.inj (found.symm.trans along)
      obtain ⟨earlier, foundEarlier⟩ := rest.exists_arrival
      obtain ⟨bound, rfl⟩ := Nat.exists_eq_add_one_of_ne_zero (Nat.ne_zero_of_lt bounded)
      rw [walkBack, foundEarlier]
      show walkBack known bound earlier (edge.link :: links) = _
      rw [inductionHypothesis foundEarlier (Nat.le_of_succ_le_succ bounded), List.map_cons,
        List.reverse_cons, List.append_assoc]
      rfl

/-- From every place that was met a walk back leads to the origin, over places that
were met one before the other. -/
theorem Noted.exists_walksBack
    (noted : Noted edges origin known)
    (placeMet : place ∈ met known) :
    ∃ back,
      WalksBack known place back origin ∧
      List.Sublist (place :: back.map Edge.source).reverse (met known) := by
  induction noted generalizing place with
  | origin =>
      obtain rfl := List.mem_singleton.mp placeMet
      exact ⟨[], .stop List.lookup_cons_self, List.Sublist.refl _⟩
  | @along known edge before member sourceMet fresh inductionHypothesis =>
      have met_eq : met (known ++ [(edge.target, some edge)]) = met known ++ [edge.target] := by
        rw [met, List.map_append]
        rfl
      rw [met_eq] at placeMet ⊢
      rcases List.mem_append.mp placeMet with earlier | last
      · obtain ⟨back, walk, ordered⟩ := inductionHypothesis earlier
        exact ⟨back, walk.append _, ordered.trans (List.sublist_append_left _ _)⟩
      · obtain rfl := List.mem_singleton.mp last
        obtain ⟨back, walk, ordered⟩ := inductionHypothesis sourceMet
        refine ⟨edge :: back, .back ?_ (walk.append _), ?_⟩
        · exact (lookup_concat_iff fresh).mpr (.inr ⟨rfl, rfl⟩)
        · rw [List.reverse_cons]
          exact ordered.append (List.Sublist.refl _)

/-- A walk back over places in the order of the arrivals is shorter than these. -/
theorem length_lt_of_ordered
    {back : List Edge}
    (ordered : List.Sublist (place :: back.map Edge.source).reverse (met known)) :
    back.length < known.length := by
  have fewer := ordered.length_le
  rw [List.length_reverse, List.length_cons, List.length_map, met, List.length_map] at fewer
  exact fewer

end LinkedQuery.Arena
