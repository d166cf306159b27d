import LinkedQuery.Proofs.Traced
import LinkedQuery.Settings

/-!
Contract: what the judgement of settings accepts.

Owns:
- consistent settings: declarations that repeat no name and link only to each
  other, a declared root, a snapshot in order;
- the declarations, the snapshot and the root that each check accepts;
- accepted settings, which are consistent.

Does not own: the faults of settings that are refused.
-/

namespace LinkedQuery.Settings

/-- Declarations that fit together: there are some, no entity and no backend name
is declared twice, and links lead to declared entities. -/
structure FitTogether (declarations : List Declaration) : Prop where
  nonempty : declarations ≠ []
  names : (declarations.map Declaration.entity).Nodup
  backendNames : (declarations.map (·.options.backendName)).Nodup
  targets :
    ∀ declaration ∈ declarations, ∀ link ∈ declaration.options.links,
      link.entity ∈ declarations.map Declaration.entity

/-- Settings that describe a compiler: the declarations fit together, the root is
declared, and the bounds of the snapshot are in order. -/
structure Consistent (settings : Settings) : Prop where
  indexes : FitTogether settings.indexes
  root : settings.compiler.root ∈ settings.indexes.map Declaration.entity
  lower : 0 ≤ settings.snapshot.lower
  ordered : settings.snapshot.lower ≤ settings.snapshot.upper

/-! ## Declarations -/

/-- The declarations repeat neither a name among themselves nor one that is
taken. -/
theorem checkDistinct_eq_ok_iff
    {names : List Entity}
    {backendNames : List Text}
    {position : Nat}
    {declarations : List Declaration} :
    checkDistinct names backendNames position declarations = .ok () ↔
      ((declarations.map Declaration.entity).Nodup ∧
        ∀ declaration ∈ declarations, declaration.entity ∉ names) ∧
      ((declarations.map (·.options.backendName)).Nodup ∧
        ∀ declaration ∈ declarations, declaration.options.backendName ∉ backendNames) := by
  induction declarations generalizing names backendNames position with
  | nil => simp [checkDistinct]
  | cons declaration rest inductionHypothesis =>
      rw [checkDistinct]
      by_cases named : declaration.entity ∈ names
      · simp [named]
      by_cases backed : declaration.options.backendName ∈ backendNames
      · simp [named, backed]
      simp only [List.contains_eq_mem, named, backed, decide_false, Bool.false_eq_true, if_false,
        inductionHypothesis, List.map_cons, List.nodup_cons, List.mem_map, List.mem_cons,
        not_or, not_exists, not_and, forall_eq_or_imp, not_false_eq_true, true_and]
      constructor
      · rintro ⟨⟨distinct, fresh⟩, backendDistinct, backendFresh⟩
        exact ⟨⟨⟨fun other member => (fresh other member).1, distinct⟩,
            fun other member => (fresh other member).2⟩,
          ⟨fun other member => (backendFresh other member).1, backendDistinct⟩,
          fun other member => (backendFresh other member).2⟩
      · rintro ⟨⟨⟨absent, distinct⟩, fresh⟩, ⟨backendAbsent, backendDistinct⟩, backendFresh⟩
        exact ⟨⟨distinct, fun other member => ⟨absent other member, fresh other member⟩⟩,
          backendDistinct,
          fun other member => ⟨backendAbsent other member, backendFresh other member⟩⟩

theorem checkLinks_eq_ok_iff
    (names : List Entity)
    (position linkPosition : Nat)
    (links : List Link) :
    checkLinks names position linkPosition links = .ok () ↔
      ∀ link ∈ links, link.entity ∈ names := by
  induction links generalizing linkPosition with
  | nil => simp [checkLinks]
  | cons link rest inductionHypothesis =>
      rw [checkLinks]
      by_cases declared : link.entity ∈ names
      · simp [declared, inductionHypothesis]
      · simp [declared]

theorem checkTargets_eq_ok_iff
    {names : List Entity}
    {position : Nat}
    {declarations : List Declaration} :
    checkTargets names position declarations = .ok () ↔
      ∀ declaration ∈ declarations, ∀ link ∈ declaration.options.links, link.entity ∈ names := by
  induction declarations generalizing position with
  | nil => simp [checkTargets]
  | cons declaration rest inductionHypothesis =>
      rw [checkTargets, List.forall_mem_cons,
        ← checkLinks_eq_ok_iff names position 0]
      cases checkLinks names position 0 declaration.options.links with
      | error fault => simp
      | ok _ => simp [inductionHypothesis]

/-- Declarations are accepted just if they fit together. -/
theorem checkIndexes_eq_ok_iff {declarations : List Declaration} :
    checkIndexes declarations = .ok () ↔ FitTogether declarations := by
  rw [checkIndexes]
  by_cases empty : declarations = []
  · subst empty
    simp only [List.isEmpty_nil, if_true, reduceCtorEq, false_iff]
    exact fun fit => fit.nonempty rfl
  rw [if_neg (by simpa using empty)]
  have distinct :
      checkDistinct [] [] 0 declarations = .ok () ↔
        (declarations.map Declaration.entity).Nodup ∧
        (declarations.map (·.options.backendName)).Nodup := by
    simp [checkDistinct_eq_ok_iff]
  cases checked : checkDistinct [] [] 0 declarations with
  | error fault =>
      rw [checked] at distinct
      simp only [reduceCtorEq, false_iff] at distinct ⊢
      exact fun fit => distinct ⟨fit.names, fit.backendNames⟩
  | ok _ =>
      obtain ⟨names, backendNames⟩ := distinct.mp checked
      simp only [checkTargets_eq_ok_iff]
      exact ⟨fun targets => ⟨empty, names, backendNames, targets⟩, fun fit => fit.targets⟩

/-! ## Snapshots and roots -/

theorem bounds_of_checkSnapshot
    {settings : SnapshotSettings}
    (checked : checkSnapshot settings = .ok ()) :
    0 ≤ settings.lower ∧ settings.lower ≤ settings.upper := by
  simp only [checkSnapshot, except_guard_eq_ok_iff] at checked
  omega

theorem checkRoot_eq_ok_iff {settings : Settings} :
    checkRoot settings = .ok () ↔
      settings.compiler.root ∈ settings.indexes.map Declaration.entity := by
  rw [checkRoot, ← List.contains_iff_mem]
  cases (settings.indexes.map Declaration.entity).contains settings.compiler.root <;> simp

/-! ## Whole settings -/

theorem consistent_of_check
    {settings : Settings}
    (checked : check settings = .ok ()) :
    settings.Consistent := by
  simp only [check, except_check_eq_ok_iff] at checked
  obtain ⟨-, -, snapshotChecked, indexesChecked, -, rootChecked⟩ := checked
  obtain ⟨lower, ordered⟩ := bounds_of_checkSnapshot snapshotChecked
  exact ⟨checkIndexes_eq_ok_iff.mp indexesChecked, checkRoot_eq_ok_iff.mp rootChecked, lower,
    ordered⟩

theorem ofEntries_eq_ok_iff {entries : Entries} {settings : Settings} :
    ofEntries entries = .ok settings ↔ read entries = .ok settings ∧ check settings = .ok () := by
  rw [ofEntries]
  cases read entries with
  | error fault => simp [bind, Except.bind]
  | ok found =>
      cases checked : check found with
      | error fault =>
          simp only [bind, Except.bind, checked, reduceCtorEq, Except.ok.injEq, false_iff]
          rintro ⟨rfl, passed⟩
          rw [checked] at passed
          cases passed
      | ok _ =>
          simp only [bind, Except.bind, checked, pure, Except.pure, Except.ok.injEq]
          refine ⟨?_, And.left⟩
          rintro rfl
          exact ⟨rfl, checked⟩

/-- Accepted settings are consistent. -/
theorem consistent_of_ofEntries
    {entries : Entries}
    {settings : Settings}
    (accepted : ofEntries entries = .ok settings) :
    settings.Consistent :=
  consistent_of_check (ofEntries_eq_ok_iff.mp accepted).2

end LinkedQuery.Settings
