import LinkedQuery.Catalog
import LinkedQuery.Dsl.Encoder
import LinkedQuery.Json.Printer
import LinkedQuery.Snapshot
import LinkedQuery.Topology
import LinkedQuery.Traced

/-!
Contract: expressions compiled against a root.

Owns:
- the compiler with the collaborators that it asks, and the bounds of discovery;
- discovery of the topology around a root and resolution of join paths;
- folding of a path into subselects, each with its filter;
- the compilation of every kind of expression.

Does not own: the clauses of single comparisons.
-/

namespace LinkedQuery

/-- What a compiler asks, and its settings. -/
structure Collaborators where
  /-- The options of an entity's index. -/
  resolve : Entity → Except Refusal IndexOptions
  /-- The links that start from an entity. -/
  discover : Entity → Except Refusal (List Link)
  /-- The filter clause for an index and a document type, as an object: where what is
  built cannot be taken as one, that is a refusal too. -/
  visibility : Text → Text → Except Refusal Json
  /-- Whether joins go without filters. -/
  ignoreVisibility : Bool
  /-- The document type of indexes that name none. -/
  docType : Text

/-- Links that start from some entities lead to them again. -/
def Collaborators.ClosedOn (collaborators : Collaborators) (entities : List Entity) : Prop :=
  ∀ source links,
    source ∈ entities →
    collaborators.discover source = .ok links →
    ∀ link ∈ links, link.entity ∈ entities

/-- A compiler: its collaborators, and bounds within which discovery ends.

`extent` bounds the entities that links lead to from a root.  Every entity may become
the root below a join, so each has its bound; where discovery is known to end around
one root alone, `Collaborators.around` gives the compiler for that root. -/
structure Compiler extends Collaborators where
  /-- The entities that links may lead to from a root. -/
  extent : Entity → List Entity
  /-- Links that start from the root or its extent stay there. -/
  closed : ∀ root, toCollaborators.ClosedOn (root :: extent root)

/-- The compiler for the work around one root, if discovery ends there.  Entities
elsewhere are not asked about, so they need no links. -/
def Collaborators.around
    (collaborators : Collaborators)
    (root : Entity)
    (extent : List Entity)
    (closed : collaborators.ClosedOn (root :: extent)) :
    Compiler where
  toCollaborators :=
    { collaborators with
      discover := fun entity =>
        if entity ∈ root :: extent then collaborators.discover entity else .ok [] }
  extent _ := root :: extent
  closed := by
    intro other source links _ found link member
    apply List.mem_cons_of_mem
    dsimp only at found
    split at found
    · rename_i inside
      exact closed source links inside found link member
    · cases found
      cases member

namespace Compiler

/-- A compiler over a catalog, which also knows the links, and a snapshot. -/
def ofCatalog
    (catalog : Catalog)
    (snapshot : Snapshot)
    (ignoreVisibility : Bool)
    (docType : Text) :
    Compiler where
  resolve entity := (catalog.resolve entity).mapError .fault
  discover entity := (catalog.links entity).mapError .fault
  visibility index type := .ok (snapshot.clause index type)
  ignoreVisibility := ignoreVisibility
  docType := docType
  extent _ := catalog.targets
  closed := by
    intro root source links _ found link member
    apply List.mem_cons_of_mem
    dsimp only at found
    cases answer : catalog.links source with
    | error fault =>
        rw [answer] at found
        cases found
    | ok answered =>
        rw [answer] at found
        have same : answered = links := Except.ok.inj found
        rw [← same] at member
        exact Catalog.entity_mem_targets answer member

/-- The same compiler with a look-up that refuses every request. -/
def refuseCatalog (compiler : Compiler) (refusal : Refusal) : Compiler :=
  { compiler with resolve := fun _ => .error refusal }

/-- The same compiler with a discovery that refuses every request. -/
def refuseTopology (compiler : Compiler) (refusal : Refusal) : Compiler :=
  { compiler with
    discover := fun _ => .error refusal
    closed := by
      intro root source links _ found
      simp at found }

/-- The same compiler with a filter builder that refuses every request. -/
def refuseVisibility (compiler : Compiler) (refusal : Refusal) : Compiler :=
  { compiler with visibility := fun _ _ => .error refusal }

/-- The links of an entity, none when discovery refuses. -/
def linksOf (compiler : Compiler) (entity : Entity) : List Link :=
  match compiler.discover entity with
  | .ok links => links
  | .error _ => []

/-- The entities around a root in the order of discovery. -/
def reach (compiler : Compiler) (root : Entity) : List Entity :=
  (Traversal.visits compiler.linksOf (compiler.extent root) root).map Visit.entity

/-- Ask for the links of entities one after the other and add them to a
topology. -/
def survey (compiler : Compiler) : List Entity → Topology → Traced QueryError Topology
  | [], topology => .ok topology
  | entity :: rest, topology =>
      match compiler.discover entity with
      | .error refusal => .fail (refusal.charge .topology)
      | .ok links => do
          .emit (.discovered links.length entity)
          survey compiler rest (topology.pushAll entity links)

/-- The hops from a root to a target over all links that can be discovered. -/
def resolvePath (compiler : Compiler) (root : Link) (target : Entity) :
    Traced QueryError (List Link) := do
  let topology ← compiler.survey (compiler.reach root.entity) (.rooted root.entity)
  let path ← Traced.lift (topology.findPath root.entity target)
  .emit (.resolved root.entity target path)
  return path

/-- The document type of an index: its own if it names one. -/
def typeOf (compiler : Compiler) (options : IndexOptions) : Text :=
  match options.typeName with
  | some name => if name.isEmpty then compiler.docType else name
  | none => compiler.docType

/-- A query with the filter of an index, unless filters are ignored. -/
def filter (compiler : Compiler) (index type : Text) (query : Dsl) :
    Traced QueryError Dsl :=
  if compiler.ignoreVisibility then
    .ok query
  else
    match compiler.visibility index type with
    | .error refusal => .fail (refusal.charge .visibility)
    | .ok clause => do
        .emit (.filterApplied index)
        return .filtered query clause

/-- A query on the target of a hop as a query on its source. -/
def join (compiler : Compiler) (hop : Link) (query : Dsl) : Traced QueryError Dsl :=
  match compiler.resolve hop.entity with
  | .error refusal => .fail (refusal.charge .catalog)
  | .ok options => do
      let index := options.backendName
      let type := compiler.typeOf options
      let inner ← compiler.filter index type query
      .emit (.folded hop index)
      return .subselect index type hop.left hop.right inner

/-- A query on the end of a path as a query on its start: the last hop is
joined first. -/
def fold (compiler : Compiler) : List Link → Dsl → Traced QueryError Dsl
  | [], query => .ok query
  | hop :: rest, query => do
      let inner ← fold compiler rest query
      compiler.join hop inner

/-- A comparison; the operators for similar texts have no counterpart. -/
def compileComparison (operator : Operator) (field : Field) (term : Term) :
    Except QueryError Dsl :=
  match operator with
  | .moreLikeThis => .error (.unsupportedExpr (.comparison operator field term))
  | .fuzzyLikeThis => .error (.unsupportedExpr (.comparison operator field term))
  | _ => Dsl.encode operator field term

mutual

/-- Compile an expression against a root, which is the link that leads there. Below a
join the root is the self link of its target. -/
def compile (compiler : Compiler) (root : Link) : Expr → Traced QueryError Dsl
  | .withAll items =>
      match Expr.sharedPath items with
      | none => .fail (.ambiguousPath (.withAll items))
      | some path => do
          let queries ← compileAll compiler root items
          return .nested path (.must queries)
  | .andAll items => do
      let queries ← compileAll compiler root items
      return .must queries
  | .orAny items => do
      let queries ← compileAll compiler root items
      return .should queries
  | .negation child => do
      let query ← compile compiler root child
      return .mustNot [query]
  | .linked link child => do
      let path ← compiler.resolvePath root link.entity
      if path.isEmpty then
        compile compiler root child
      else
        let query ← compile compiler (.toSelf link.entity) child
        compiler.fold path query
  | .comparison operator field term => .lift (compileComparison operator field term)
  | .foreign name => .fail (.unsupportedExpr (.foreign name))

/-- Compile expressions one after the other. -/
def compileAll (compiler : Compiler) (root : Link) :
    List Expr → Traced QueryError (List Dsl)
  | [] => .ok []
  | expr :: rest => do
      let query ← compile compiler root expr
      let queries ← compileAll compiler root rest
      return query :: queries

end

/-- Why an expression has no compiled query as text. -/
inductive DumpFault
  | query (error : QueryError)
  | overlong (fault : OverlongInteger)

/-- The wording of a fault. -/
def DumpFault.message : DumpFault → Text
  | .query error => error.message
  | .overlong fault => fault.message

/-- The compiled query of an expression as JSON text. -/
def dump (compiler : Compiler) (root : Link) (expr : Expr) : Traced DumpFault Text := do
  let query ← (compiler.compile root expr).mapError .query
  Traced.lift (query.toJson.written.mapError .overlong)

end Compiler

end LinkedQuery
