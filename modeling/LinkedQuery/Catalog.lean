import LinkedQuery.QueryError

/-!
Contract: the declared indexes.

Owns:
- the options of an index: its name on the backend, its document type, its
  links;
- the catalog, in which every entity is declared once;
- registration and look-up.

Does not own: the settings that declare indexes.
-/

namespace LinkedQuery

/-- The options of an index. -/
structure IndexOptions where
  backendName : Text
  typeName : Option Text
  links : List Link
deriving Repr, DecidableEq

/-- An entity with the options of its index. -/
structure Declaration where
  entity : Entity
  options : IndexOptions
deriving Repr, DecidableEq

/-- Declarations in order, no entity twice. -/
structure Catalog where
  entries : List Declaration
  distinct : (entries.map Declaration.entity).Nodup

/-- An entity that is declared a second time. -/
structure DeclaredTwice where
  entity : Entity
deriving Repr, DecidableEq

/-- The wording for an entity that is declared a second time. -/
def DeclaredTwice.message (fault : DeclaredTwice) : Text :=
  "Index declared twice: " ++ fault.entity.text

namespace Catalog

/-- The catalog without declarations. -/
def empty : Catalog :=
  ⟨[], by simp⟩

/-- The options in a list of declarations. -/
def lookup (entity : Entity) : List Declaration → Option IndexOptions
  | [] => none
  | declaration :: rest =>
      if declaration.entity = entity then
        some declaration.options
      else
        lookup entity rest

/-- The options of an entity. -/
def find? (catalog : Catalog) (entity : Entity) : Option IndexOptions :=
  lookup entity catalog.entries

/-- Whether an entity is declared. -/
def declares (catalog : Catalog) (entity : Entity) : Bool :=
  (catalog.entries.map Declaration.entity).contains entity

/-- The entities of a list with one more at its end are distinct when the new
one is not among them. -/
private theorem nodup_append_entity
    {entries : List Declaration}
    {declaration : Declaration}
    (distinct : (entries.map Declaration.entity).Nodup)
    (fresh : (entries.map Declaration.entity).contains declaration.entity = false) :
    ((entries ++ [declaration]).map Declaration.entity).Nodup := by
  rw [List.map_append, List.nodup_append]
  refine ⟨distinct, by simp, ?_⟩
  intro entity member other otherMember same
  simp only [List.map_cons, List.map_nil, List.mem_singleton] at otherMember
  subst same
  subst otherMember
  simp at fresh member
  obtain ⟨found, foundMember, foundSame⟩ := member
  exact fresh found foundMember foundSame

/-- Declare one more entity. -/
def register (catalog : Catalog) (declaration : Declaration) :
    Except DeclaredTwice Catalog :=
  if fresh : (catalog.entries.map Declaration.entity).contains declaration.entity = false then
    .ok ⟨catalog.entries ++ [declaration], nodup_append_entity catalog.distinct fresh⟩
  else
    .error ⟨declaration.entity⟩

/-- Declare entities one after the other. -/
def registerAll (catalog : Catalog) : List Declaration → Except DeclaredTwice Catalog
  | [] => .ok catalog
  | declaration :: rest =>
      match catalog.register declaration with
      | .ok catalog => registerAll catalog rest
      | .error fault => .error fault

/-- The catalog of some declarations. -/
def ofList (declarations : List Declaration) : Except DeclaredTwice Catalog :=
  empty.registerAll declarations

/-- The options of an entity, or the fault that it is unknown. -/
def resolve (catalog : Catalog) (entity : Entity) : Except LookupFault IndexOptions :=
  match catalog.find? entity with
  | some options => .ok options
  | none => .error (.missing ("Unknown index: " ++ entity.text))

/-- The links of an entity, or the fault that it is unknown. -/
def links (catalog : Catalog) (entity : Entity) : Except LookupFault (List Link) :=
  (catalog.resolve entity).map IndexOptions.links

/-- The targets of all links. -/
def targets (catalog : Catalog) : List Entity :=
  catalog.entries.flatMap fun declaration => declaration.options.links.map Link.entity

/-- Links that are found lead to targets of the catalog. -/
theorem entity_mem_targets
    {catalog : Catalog}
    {entity : Entity}
    {found : List Link}
    (foundLinks : catalog.links entity = .ok found)
    {link : Link}
    (member : link ∈ found) :
    link.entity ∈ catalog.targets := by
  have declared :
      ∀ {entries : List Declaration} {options : IndexOptions},
        lookup entity entries = some options →
        ∃ declaration ∈ entries, declaration.options = options := by
    intro entries options present
    induction entries with
    | nil => simp [lookup] at present
    | cons declaration rest inductionHypothesis =>
        simp only [lookup] at present
        split at present
        · exact ⟨declaration, by simp, Option.some.inj present⟩
        · obtain ⟨other, otherMember, same⟩ := inductionHypothesis present
          exact ⟨other, by simp [otherMember], same⟩
  unfold links resolve at foundLinks
  split at foundLinks
  · rename_i options present
    obtain ⟨declaration, declarationMember, same⟩ := declared present
    simp only [Except.map, Except.ok.injEq] at foundLinks
    subst foundLinks
    simp only [targets, List.mem_flatMap, List.mem_map]
    exact ⟨declaration, declarationMember, link, by rw [same]; exact member, rfl⟩
  · simp [Except.map] at foundLinks

end Catalog

end LinkedQuery
