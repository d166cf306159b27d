import LinkedQuery.Catalog
import LinkedQuery.Topology.Traversal

/-!
Contract: what a catalog says about an entity.

Owns:
- look-up as membership: a catalog finds just the options it was given;
- the links that are declared for an entity, none if it is not declared;
- the hops of declarations;
- the catalog of distinct declarations.

Does not own: what is found over links.
-/

namespace LinkedQuery.Catalog

variable {catalog : Catalog} {entity : Entity} {options : IndexOptions}

/-- The links of an entity, none if it is not declared. -/
def declaredLinks (catalog : Catalog) (entity : Entity) : List Link :=
  match catalog.find? entity with
  | some options => options.links
  | none => []

/-- The links of an entity that join something. -/
def declaredJoins (catalog : Catalog) (entity : Entity) : List Link :=
  (catalog.declaredLinks entity).filter (!·.isSelf)

/-- The hops of declarations, those of each one in the order of its links. -/
def hopsOfEntries (entries : List Declaration) : List Hop :=
  entries.flatMap fun declaration => declaration.options.links.map (Hop.mk declaration.entity)

/-- Among distinct entities, look-up finds just what is listed. -/
theorem lookup_eq_some_iff
    {entries : List Declaration}
    (distinct : (entries.map Declaration.entity).Nodup) :
    lookup entity entries = some options ↔ ⟨entity, options⟩ ∈ entries := by
  induction entries with
  | nil => simp [lookup]
  | cons declaration rest inductionHypothesis =>
      obtain ⟨absent, restDistinct⟩ := List.nodup_cons.mp distinct
      rw [lookup, List.mem_cons]
      by_cases same : declaration.entity = entity
      · subst same
        rw [if_pos rfl, Option.some.injEq]
        constructor
        · rintro rfl
          exact Or.inl rfl
        · rintro (isHead | inRest)
          · rw [← isHead]
          · exact absurd (List.mem_map_of_mem inRest) absent
      · rw [if_neg same, inductionHypothesis restDistinct]
        refine ⟨Or.inr, fun member => member.resolve_left ?_⟩
        rintro rfl
        exact same rfl

theorem find?_eq_some_iff :
    catalog.find? entity = some options ↔ ⟨entity, options⟩ ∈ catalog.entries :=
  lookup_eq_some_iff catalog.distinct

theorem declares_iff :
    catalog.declares entity = true ↔ ∃ options, catalog.find? entity = some options := by
  simp only [declares, List.contains_eq_mem, decide_eq_true_eq, List.mem_map, find?_eq_some_iff]
  constructor
  · rintro ⟨declaration, member, rfl⟩
    exact ⟨declaration.options, member⟩
  · rintro ⟨options, member⟩
    exact ⟨_, member, rfl⟩

theorem find?_of_not_declares (undeclared : catalog.declares entity = false) :
    catalog.find? entity = none := by
  cases found : catalog.find? entity with
  | none => rfl
  | some options =>
      rw [declares_iff.mpr ⟨options, found⟩] at undeclared
      cases undeclared

theorem resolve_of_find? (found : catalog.find? entity = some options) :
    catalog.resolve entity = .ok options := by
  rw [resolve, found]

theorem links_of_find? (found : catalog.find? entity = some options) :
    catalog.links entity = .ok options.links := by
  rw [links, resolve, found]
  rfl

theorem links_of_not_declares (undeclared : catalog.declares entity = false) :
    catalog.links entity = .error (.missing ("Unknown index: " ++ entity.text)) := by
  rw [links, resolve, find?_of_not_declares undeclared]
  rfl

/-! ## Registration -/

/-- Declarations that repeat no entity, neither among themselves nor one that is
declared, are registered in their order. -/
theorem exists_registerAll
    {declarations : List Declaration}
    (distinct : ((catalog.entries ++ declarations).map Declaration.entity).Nodup) :
    ∃ registered, catalog.registerAll declarations = .ok registered ∧
      registered.entries = catalog.entries ++ declarations := by
  induction declarations generalizing catalog with
  | nil => exact ⟨catalog, rfl, (List.append_nil _).symm⟩
  | cons declaration rest inductionHypothesis =>
      have fresh : declaration.entity ∉ catalog.entries.map Declaration.entity := by
        rw [List.map_append, List.nodup_append] at distinct
        intro member
        exact distinct.2.2 _ member _ (by simp) rfl
      rw [List.append_cons] at distinct ⊢
      rw [registerAll, register, dif_pos (by simpa using fresh)]
      exact inductionHypothesis distinct

theorem exists_ofList
    {declarations : List Declaration}
    (distinct : (declarations.map Declaration.entity).Nodup) :
    ∃ catalog, ofList declarations = .ok catalog ∧ catalog.entries = declarations :=
  exists_registerAll distinct

end LinkedQuery.Catalog
