import LinkedQuery.QueryError
import LinkedQuery.Topology.Traversal

/-!
Contract: the topology as an arena, where links join places.

Owns:
- the entities at their places, the place of each entity, and the edges between
  places in the order in which they were pushed;
- the search from one place to another and the arrivals that it notes;
- the walk back over the arrivals, which gives the path.

Does not own: what the path means, and the topology that it agrees with.
-/

namespace LinkedQuery

/-- A link between two places. -/
structure Edge where
  source : Nat
  target : Nat
  link : Link
deriving Repr, DecidableEq

/-- Entities at places, the places of entities, and edges in order. -/
structure Arena where
  nodes : List Entity
  places : List (Entity × Nat)
  edges : List Edge
deriving Repr, DecidableEq

namespace Arena

/-! ## Pushing -/

/-- The place of an entity, and the arena in which it has that place: one without a
place gets the next. -/
def node (arena : Arena) (entity : Entity) : Nat × Arena :=
  match arena.places.lookup entity with
  | some place => (place, arena)
  | none =>
      let place := arena.nodes.length
      (place,
        { arena with
          nodes := arena.nodes ++ [entity]
          places := arena.places ++ [(entity, place)] })

/-- The arena that knows only a root. -/
def rooted (root : Entity) : Arena :=
  (node ⟨[], [], []⟩ root).2

/-- Add a link from a source; a self link adds nothing. -/
def push (arena : Arena) (source : Entity) (link : Link) : Arena :=
  if link.isSelf then
    arena
  else
    let (sourcePlace, withSource) := arena.node source
    let (targetPlace, withTarget) := withSource.node link.entity
    { withTarget with edges := withTarget.edges ++ [⟨sourcePlace, targetPlace, link⟩] }

/-! ## Searching -/

/-- The places met in order, each with the edge that met it first; the origin is met
by none. -/
abbrev Arrivals :=
  List (Nat × Option Edge)

/-- The arrivals that the edges of a place add to those known. -/
def scan (current : Nat) (known : Arrivals) : List Edge → Arrivals
  | [] => []
  | edge :: edges =>
      if edge.source = current ∧ known.lookup edge.target = none then
        (edge.target, some edge) :: scan current (known ++ [(edge.target, some edge)]) edges
      else
        scan current known edges

/-- The number of edges to places that were not met. -/
def unmet (edges : List Edge) (known : Arrivals) : Nat :=
  (edges.filter fun edge => (known.lookup edge.target).isNone).length

/-- A place that an edge leads to is unmet no longer once it is noted. -/
theorem unmet_append_lt
    {edges : List Edge}
    {known : Arrivals}
    {edge : Edge}
    (member : edge ∈ edges)
    (fresh : known.lookup edge.target = none) :
    unmet edges (known ++ [(edge.target, some edge)]) < unmet edges known := by
  have split :
      (edges.filter fun other =>
          ((known ++ [(edge.target, some edge)]).lookup other.target).isNone) =
        (edges.filter fun other => (known.lookup other.target).isNone).filter
          fun other => other.target != edge.target := by
    rw [List.filter_filter]
    apply List.filter_congr
    intro other _
    rw [List.lookup_append]
    by_cases same : other.target = edge.target
    · simp [same, fresh]
    · simp [same, List.lookup_cons, beq_eq_false_iff_ne.mpr same]
  unfold unmet
  rw [split]
  apply List.length_filter_lt_length_iff_exists.mpr
  exact ⟨edge, List.mem_filter.mpr ⟨member, by rw [fresh]; rfl⟩, by simp⟩

/-- Each arrival takes an edge away from the unmet ones. -/
theorem unmet_scan_le
    {edges some : List Edge}
    (current : Nat)
    (known : Arrivals)
    (included : some ⊆ edges) :
    unmet edges (known ++ scan current known some) + (scan current known some).length ≤
      unmet edges known := by
  induction some generalizing known with
  | nil => simp [scan]
  | cons edge rest inductionHypothesis =>
      have restIncluded := List.subset_of_cons_subset included
      rw [scan]
      split
      · rename_i fresh
        have fewer := unmet_append_lt (included List.mem_cons_self) fresh.2
        have later := inductionHypothesis (known ++ [(edge.target, some edge)]) restIncluded
        rw [List.append_assoc, List.singleton_append] at later
        rw [List.length_cons]
        omega
      · exact inductionHypothesis known restIncluded

/-- Go on from the places in the queue until the goal comes up. -/
def search (edges : List Edge) (goal : Nat) (known : Arrivals) (queue : List Nat) : Arrivals :=
  match queue with
  | [] => known
  | current :: rest =>
      if current = goal then
        known
      else
        let fresh := scan current known edges
        search edges goal (known ++ fresh) (rest ++ fresh.map Prod.fst)
termination_by 2 * unmet edges known + queue.length
decreasing_by
  have fewer := unmet_scan_le current known (List.Subset.refl edges)
  simp only [List.length_append, List.length_map, List.length_cons]
  omega

/-- The arrivals that a search from one place to another notes. -/
def arrivals (arena : Arena) (origin goal : Nat) : Arrivals :=
  search arena.edges goal [(origin, none)] [origin]

/-! ## Walking back -/

/-- Walk back over the arrivals along at most so many edges, with the links that were
passed put in front of others; there is no result if a place has no arrival, or if
the walk is longer. -/
def walkBack (known : Arrivals) : Nat → Option Edge → List Link → Option (List Link)
  | _, none, links => some links
  | 0, some _, _ => none
  | bound + 1, some edge, links =>
      match known.lookup edge.source with
      | none => none
      | some earlier => walkBack known bound earlier (edge.link :: links)

/-- The path from a start to a target, or why there is none; no result if the walk
back fails. -/
def findPath (arena : Arena) (start target : Entity) :
    Option (Except QueryError (List Link)) :=
  if start = target then
    some (.ok [])
  else
    match arena.places.lookup start, arena.places.lookup target with
    | some origin, some goal =>
        let known := arena.arrivals origin goal
        match known.lookup goal with
        -- A walk that repeats no place is shorter than the arrivals.
        | some arrival => (walkBack known known.length arrival []).map Except.ok
        | none => some (.error (.pathNotFound start target))
    | _, _ => some (.error (.pathNotFound start target))

end Arena

end LinkedQuery
