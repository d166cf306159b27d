import LinkedQuery.Proofs.Compiler.Containment
import LinkedQuery.Proofs.Settings.Validation

/-!
Contract: the compiler of accepted settings.

Owns:
- the catalog and the snapshot of consistent settings, which are always there;
- the safety of accepted settings: no query about a declared entity makes a
  collaborator fail.

Does not own: the error of a query that does not compile.
-/

namespace LinkedQuery

theorem Snapshot.exists_ofParts
    {lower upper : Int}
    (ordered : lower ≤ upper)
    (reader command : Int)
    (active : List Int) :
    ∃ snapshot, ofParts reader lower upper command active = .ok snapshot :=
  ⟨_, dif_pos ordered⟩

namespace Settings

variable {settings : Settings}

/-- Declarations that fit together make a closed catalog. -/
theorem FitTogether.exists_catalog
    {declarations : List Declaration}
    (fit : FitTogether declarations) :
    ∃ catalog, Catalog.ofList declarations = .ok catalog ∧
      catalog.entries = declarations ∧ catalog.Closed := by
  obtain ⟨catalog, made, same⟩ := Catalog.exists_ofList fit.names
  refine ⟨catalog, made, same, fun declaration member link linkMember => ?_⟩
  rw [same] at member
  simpa [Catalog.declares, same] using fit.targets declaration member link linkMember

/-- Consistent settings describe a compiler over the closed catalog of their
declarations. -/
theorem Consistent.exists_compiler (consistent : settings.Consistent) :
    ∃ catalog snapshot,
      settings.toCompiler.outcome =
        .ok (.ofCatalog catalog snapshot settings.compiler.ignoreVisibility
          settings.compiler.docType) ∧
      catalog.entries = settings.indexes ∧
      catalog.Closed := by
  obtain ⟨catalog, made, same, closed⟩ := consistent.indexes.exists_catalog
  obtain ⟨snapshot, taken⟩ := Snapshot.exists_ofParts consistent.ordered
    settings.snapshot.reader settings.snapshot.command settings.snapshot.active
  refine ⟨catalog, snapshot, ?_, same, closed⟩
  simp only [toCompiler, made, taken]
  cases settings.compiler.ignoreVisibility <;> rfl

/-- Accepted settings are consistent and describe a compiler.  Whatever entity
they declare is the root, each expression compiles or has an error that lies in
the expression, which can be written unless the expression itself cannot. -/
theorem ofEntries_safe
    {entries : Entries}
    (accepted : ofEntries entries = .ok settings) :
    settings.Consistent ∧
    ∃ compiler,
      settings.toCompiler.outcome = .ok compiler ∧
      ∀ root : Link, root.entity ∈ settings.indexes.map Declaration.entity → ∀ expr,
        (∃ query, (compiler.compile root expr).outcome = .ok query) ∨
        ∃ error, (compiler.compile root expr).outcome = .error error ∧
          error.isOfQuery = true ∧ (error.isOverlong = true → expr.isOverlong = true) := by
  have consistent := consistent_of_ofEntries accepted
  obtain ⟨catalog, snapshot, made, same, closed⟩ := consistent.exists_compiler
  refine ⟨consistent, _, made, fun root declared expr => ?_⟩
  have overCatalog :=
    Compiler.over_ofCatalog catalog snapshot settings.compiler.ignoreVisibility
      settings.compiler.docType
  have declaredRoot : catalog.declares root.entity = true := by
    simpa [Catalog.declares, same] using declared
  rcases overCatalog.compile_confined (fun index type => ⟨_, rfl⟩) closed declaredRoot expr with
    compiled | ⟨error, failed, confined⟩
  · exact .inl compiled
  · exact .inr ⟨error, failed, confined.ofQuery, confined.written⟩

/-! ## Settings of two linked indexes -/

/-- A mapping that declares an index, one that it links to, and the first of them
as the root. -/
def linkedEntries : Entries :=
  [(.text "compiler", .map [(.text "root", .scalar (.text "p"))]),
   (.text "indexes", .list
     [.map
       [(.text "name", .scalar (.text "p")), (.text "backend_name", .scalar (.text "P")),
        (.text "links", .list [.scalar (.text "i=<q>j")])],
      .map
       [(.text "name", .scalar (.text "q")), (.text "backend_name", .scalar (.text "Q"))]])]

/-- The entity that a letter names. -/
def single (letter : Char) : Entity :=
  ⟨none, ⟨[.char letter]⟩, none⟩

/-- The settings of that mapping, with all defaults. -/
def linkedSettings : Settings where
  log := ⟨"INFO", false, "log"⟩
  compiler := ⟨single 'p', false, "_doc"⟩
  snapshot := ⟨0, 1, 1, 0, []⟩
  indexes :=
    [⟨single 'p', ⟨"P", none, [⟨none, some "i", single 'q', some "j"⟩]⟩⟩,
     ⟨single 'q', ⟨"Q", none, []⟩⟩]
  output := ⟨"output", ["console"]⟩

theorem ofEntries_linkedEntries : ofEntries linkedEntries = .ok linkedSettings := by
  rfl

theorem ofEntries_safe_linked :
    ofEntries linkedEntries = .ok linkedSettings ∧
    linkedSettings.Consistent ∧
    ∃ compiler,
      linkedSettings.toCompiler.outcome = .ok compiler ∧
      ∀ expr,
        (∃ query, (compiler.compile (.toSelf (single 'q')) expr).outcome = .ok query) ∨
        ∃ error, (compiler.compile (.toSelf (single 'q')) expr).outcome = .error error ∧
          error.isOfQuery = true ∧ (error.isOverlong = true → expr.isOverlong = true) := by
  obtain ⟨consistent, compiler, made, safe⟩ := ofEntries_safe ofEntries_linkedEntries
  exact ⟨ofEntries_linkedEntries, consistent, compiler, made,
    safe (.toSelf (single 'q')) (by decide)⟩

/-- A comparison with a distance of more digits than can be written. -/
def overlongExpr : Expr :=
  .comparison .moreLikeThis ⟨"f"⟩ (.fuzzy "x" (Nat.pow 10 maxDigits) none)

/-- Not every error of a query about accepted settings is shown: the fault of
writing a distance that is too long takes its place. -/
theorem compile_overlongExpr :
    ofEntries linkedEntries = .ok linkedSettings ∧
    ∃ compiler,
      linkedSettings.toCompiler.outcome = .ok compiler ∧
      ∃ error,
        (compiler.compile (.toSelf linkedSettings.compiler.root) overlongExpr).outcome =
          .error error ∧
        error.message = OverlongInteger.written.message ∧
        error.message ≠ error.wording := by
  have overlong : (QueryError.unsupportedExpr overlongExpr).isOverlong = true := by
    rw [QueryError.isOverlong, overlongExpr, Expr.isOverlong_comparison]
    exact isOverlong_natCast_iff.mpr (Nat.le_refl _)
  exact ⟨ofEntries_linkedEntries, _, rfl, _, rfl, QueryError.message_of_isOverlong overlong,
    QueryError.message_ne_wording rfl overlong⟩

end Settings

end LinkedQuery
