import LinkedQuery.QueryError
import LinkedQuery.Topology.Traversal

/-!
Contract: the links known around a root and the shortest joins over them.

Owns:
- the entities and hops in the order in which they were added;
- the shortest path from one entity to another: of equally short ones that
  whose hops were added first, compared from the start on.

Does not own: the discovery of links.
-/

namespace LinkedQuery

/-- Entities and the hops between them in order. -/
structure Topology where
  entities : List Entity
  hops : List Hop
deriving Repr, DecidableEq

namespace Topology

/-- The topology that knows only a root. -/
def rooted (root : Entity) : Topology :=
  ⟨[root], []⟩

/-- Add an entity unless it is known. -/
def addEntity (entities : List Entity) (entity : Entity) : List Entity :=
  if entities.contains entity then entities else entities ++ [entity]

/-- Add a link from a source; a self link adds nothing. -/
def push (topology : Topology) (source : Entity) (link : Link) : Topology :=
  if link.isSelf then
    topology
  else
    ⟨addEntity (addEntity topology.entities source) link.entity,
     topology.hops ++ [⟨source, link⟩]⟩

/-- Add the links of a source in order. -/
def pushAll (topology : Topology) (source : Entity) (links : List Link) : Topology :=
  links.foldl (fun topology link => topology.push source link) topology

/-- The links that start from an entity in order. -/
def outgoing (topology : Topology) (entity : Entity) : List Link :=
  (topology.hops.filter (·.source == entity)).map Hop.link

/-- The visits of a breadth-first traversal from a start. -/
def visitsFrom (topology : Topology) (start : Entity) : List Visit :=
  Traversal.visits topology.outgoing topology.entities start

/-- Trace a path back from a target through visits, the newest first: each hop
leads to a visit made earlier, and the start has no hop. -/
def traceBack : List Visit → Entity → Option (List Link)
  | [], _ => none
  | visit :: earlier, target =>
      if visit.entity = target then
        match visit.arrival with
        | none => some []
        | some hop => (traceBack earlier hop.source).map (· ++ [hop.link])
      else
        traceBack earlier target

/-- The hops from a start to a target; none when the start is the target. -/
def findPath (topology : Topology) (start target : Entity) :
    Except QueryError (List Link) :=
  match traceBack (topology.visitsFrom start).reverse target with
  | some path => .ok path
  | none => .error (.pathNotFound start target)

end Topology

end LinkedQuery
