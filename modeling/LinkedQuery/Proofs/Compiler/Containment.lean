import LinkedQuery.Proofs.Compiler.Faults
import LinkedQuery.Proofs.Dsl.Admission

/-!
Contract: what can go wrong over a catalog whose links stay within it.

Owns:
- closed catalogs, and the coverage of all that they declare;
- the errors of a compilation over a closed catalog: they lie in the query, and
  they can be written if the query can.

Does not own: the settings that give closed catalogs.
-/

namespace LinkedQuery

namespace QueryError

/-- An error that lies in a query, and that can be written unless the query is
overlong. -/
structure Confined (error : QueryError) (overlong : Bool) : Prop where
  ofQuery : error.isOfQuery = true
  written : error.isOverlong = true → overlong = true

theorem Confined.mono
    {error : QueryError}
    {part whole : Bool}
    (confined : error.Confined part)
    (wider : part = true → whole = true) :
    error.Confined whole :=
  ⟨confined.ofQuery, fun overlong => wider (confined.written overlong)⟩

end QueryError

/-! ## Terms that cannot be encoded -/

theorem Term.anyOverlong_of_mem
    {members : List Term}
    {member : Term}
    (inMembers : member ∈ members)
    (overlong : member.isOverlong = true) :
    anyOverlong members = true := by
  induction members with
  | nil => cases inMembers
  | cons first rest inductionHypothesis =>
      rw [anyOverlong, Bool.or_eq_true]
      rcases List.mem_cons.mp inMembers with rfl | inRest
      · exact .inl overlong
      · exact .inr (inductionHypothesis inRest)

theorem Term.memberError_confined (member : Term) :
    member.memberError.Confined member.isOverlong := by
  cases member <;> exact ⟨rfl, id⟩

/-- The errors of the encoder lie in the term. -/
theorem Dsl.encode_confined
    {operator : Operator}
    {field : Field}
    {term : Term}
    {error : QueryError}
    (failed : encode operator field term = .error error) :
    error.Confined term.isOverlong := by
  cases encode_eq_error_iff.mp failed with
  | mismatch => exact ⟨rfl, id⟩
  | similarity => exact ⟨rfl, fun overlong => by cases overlong⟩
  | value => cases term <;> exact ⟨rfl, id⟩
  | @member front back member boost =>
      apply member.memberError_confined.mono
      intro overlong
      have inMembers : member ∈ front ++ member :: back := by simp
      exact Term.anyOverlong_of_mem inMembers overlong

/-! ## Closed catalogs -/

namespace Catalog

variable {catalog : Catalog} {entity : Entity}

/-- The links of declared entities lead to declared entities. -/
def Closed (catalog : Catalog) : Prop :=
  ∀ declaration ∈ catalog.entries, ∀ link ∈ declaration.options.links,
    catalog.declares link.entity = true

theorem Closed.declares_link
    (closed : catalog.Closed)
    {link : Link}
    (member : link ∈ catalog.declaredLinks entity) :
    catalog.declares link.entity = true := by
  unfold declaredLinks at member
  cases found : catalog.find? entity with
  | none =>
      rw [found] at member
      cases member
  | some options =>
      rw [found] at member
      exact closed _ (find?_eq_some_iff.mp found) link member

/-- A closed catalog declares everything within reach of what it declares. -/
theorem Closed.covers
    (closed : catalog.Closed)
    (declared : catalog.declares entity = true) :
    catalog.Covers entity :=
  fun _ reached =>
    reached.keeps (fun other => catalog.declares other = true) declared
      fun _ _ _ member => closed.declares_link member

/-- The entity below a node that can be translated is declared if its own is. -/
theorem declares_entityBelow
    (declared : catalog.declares entity = true)
    {node : Expr}
    (translates : catalog.Translates entity node) :
    catalog.declares (node.entityBelow entity) = true := by
  cases node with
  | linked link child =>
      obtain ⟨covers, reached⟩ := translates
      exact covers link.entity (reached.mono fun other _ => List.filter_sublist.subset)
  | withAll | andAll | orAny | negation | comparison | foreign => exact declared

/-- What breaks at an entity that a closed catalog declares lies in the query. -/
theorem Closed.confined_of_breaks
    (closed : catalog.Closed)
    (declared : catalog.declares entity = true)
    {node : Expr}
    {error : QueryError}
    (breaks : catalog.Breaks entity node error) :
    error.Confined node.isOverlong := by
  cases breaks with
  | group | similarity | foreign => exact ⟨rfl, id⟩
  | undeclared first =>
      -- The only error of a collaborator needs an entity within reach that is missing.
      obtain ⟨undeclared, path, chain, -⟩ := first
      rw [closed.covers declared _ ⟨path, chain⟩] at undeclared
      cases undeclared
  | unreached => exact ⟨rfl, fun overlong => by cases overlong⟩
  | term notSimilar notFuzzy failed =>
      rw [Expr.isOverlong_comparison]
      exact Dsl.encode_confined failed

end Catalog

namespace Compiler

variable {compiler : Compiler} {catalog : Catalog} {error : QueryError}

/-- Over a closed catalog, the first fault below a declared root lies in the
expression: each node that is passed leaves a declared entity for those below. -/
theorem Over.firstFault?_confined
    (overCatalog : compiler.Over catalog)
    (closed : catalog.Closed)
    {root : Entity}
    (declared : catalog.declares root = true)
    {expr : Expr}
    (found : compiler.firstFault? (expr.placed root) = some error) :
    error.Confined expr.isOverlong := by
  induction expr using Expr.childInduction generalizing root with
  | step expr inductionHypothesis =>
      rw [Expr.placed_eq_cons, firstFault?_cons, Option.or_eq_some_iff] at found
      rcases found with atNode | ⟨sound, belowNode⟩
      -- The invariant is that the entity of the node is declared.
      · exact closed.confined_of_breaks declared
          ((overCatalog.nodeFault?_eq_some_iff expr).mp atNode)
      · have translates := (overCatalog.nodeFault?_eq_none_iff expr).mp sound
        obtain ⟨child, member, atChild⟩ := exists_firstFault?_of_placedAll belowNode
        have confined :=
          inductionHypothesis child member (Catalog.declares_entityBelow declared translates)
            atChild
        exact confined.mono (Expr.isOverlong_of_child member)

/-- Over a closed catalog that gives every filter, an expression about a declared
entity compiles, or the error lies in the expression. -/
theorem Over.compile_confined
    (overCatalog : compiler.Over catalog)
    (filters : ∀ index type, ∃ clause, compiler.visibility index type = .ok clause)
    (closed : catalog.Closed)
    {root : Link}
    (declared : catalog.declares root.entity = true)
    (expr : Expr) :
    (∃ query, (compiler.compile root expr).outcome = .ok query) ∨
      ∃ error, (compiler.compile root expr).outcome = .error error ∧
        error.Confined expr.isOverlong := by
  cases compiled : (compiler.compile root expr).outcome with
  | ok query => exact .inl ⟨query, rfl⟩
  | error error =>
      refine .inr ⟨error, rfl, ?_⟩
      rw [← errorOf?_eq_some_iff, errorOf?_compile (overCatalog.folds filters)] at compiled
      exact overCatalog.firstFault?_confined closed declared compiled

end Compiler

end LinkedQuery
