import LinkedQuery.Link

/-!
Contract: breadth-first traversal of linked entities.

Owns:
- the visits in the order in which entities are met, each with the hop that met
  it first;
- the measure by which the traversal ends on cyclic links.

Does not own: where the links of an entity come from.
-/

namespace LinkedQuery

/-- A link together with the entity that it starts from. -/
structure Hop where
  source : Entity
  link : Link
deriving Repr, DecidableEq

/-- The entity that a hop leads to. -/
def Hop.target (hop : Hop) : Entity :=
  hop.link.entity

/-- An entity that was met, and the hop that met it; the start is met by
none. -/
structure Visit where
  entity : Entity
  arrival : Option Hop
deriving Repr, DecidableEq

namespace Traversal

/-- Meet the targets of an entity's links: the result is a visit for each one
that was unseen, and the entities that are still unseen. -/
def meet (source : Entity) : List Link → List Entity → List Visit × List Entity
  | [], unseen => ([], unseen)
  | link :: links, unseen =>
      if unseen.contains link.entity then
        let (visits, left) := meet source links (unseen.filter (· != link.entity))
        (⟨link.entity, some ⟨source, link⟩⟩ :: visits, left)
      else
        meet source links unseen

/-- Each visit takes an entity away from the unseen ones. -/
theorem meet_length_le
    (source : Entity)
    (links : List Link)
    (unseen : List Entity) :
    (meet source links unseen).1.length + (meet source links unseen).2.length ≤
      unseen.length := by
  induction links generalizing unseen with
  | nil => simp [meet]
  | cons link links inductionHypothesis =>
      simp only [meet]
      split
      · rename_i isUnseen
        have rest := inductionHypothesis (unseen.filter (· != link.entity))
        have shorter : (unseen.filter (· != link.entity)).length < unseen.length := by
          apply List.length_filter_lt_length_iff_exists.mpr
          refine ⟨link.entity, ?_, ?_⟩
          · simpa using isUnseen
          · simp
        simp only [List.length_cons]
        omega
      · exact inductionHypothesis unseen

/-- Visit the entities in the queue and all that are met from them. -/
def walk (next : Entity → List Link) (unseen : List Entity) (queue : List Visit) :
    List Visit :=
  match queue with
  | [] => []
  | visit :: rest =>
      let met := meet visit.entity (next visit.entity) unseen
      visit :: walk next met.2 (rest ++ met.1)
termination_by 2 * unseen.length + queue.length
decreasing_by
  have bound := meet_length_le visit.entity (next visit.entity) unseen
  simp only [List.length_append, List.length_cons]
  omega

/-- Visit a start and all entities of a list that links lead to from there. -/
def visits (next : Entity → List Link) (entities : List Entity) (start : Entity) :
    List Visit :=
  walk next (entities.filter (· != start)) [⟨start, none⟩]

end Traversal

end LinkedQuery
