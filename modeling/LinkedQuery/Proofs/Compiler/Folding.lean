import LinkedQuery.Proofs.Compiler.Compilation

/-!
Contract: paths folded into nested joins.

Owns:
- the layer that a hop puts around a query: its index, type and fields, and the
  filter beside the query;
- a path folded in two parts, its errors and events included;
- folded queries as one layer for each hop, in the order of the path.

Does not own: which path is folded.
-/

namespace LinkedQuery

theorem Text.isEmpty_iff {text : Text} : text.isEmpty = true ↔ text = "" := by
  obtain ⟨codes⟩ := text
  cases codes with
  | nil => exact iff_of_true rfl rfl
  | cons code rest => exact iff_of_false (by simp [isEmpty]) (by simp [ofString, ofChars])

/-- A join around a query. -/
structure Layer where
  index : Text
  type : Text
  left : Option Text
  right : Option Text
  clause : Option Json

namespace Layer

/-- A query beside the filter of a layer, if it has one. -/
def guarded (layer : Layer) (query : Dsl) : Dsl :=
  match layer.clause with
  | none => query
  | some clause => .filtered query clause

/-- A query inside a layer. -/
def around (layer : Layer) (query : Dsl) : Dsl :=
  .subselect layer.index layer.type layer.left layer.right (layer.guarded query)

end Layer

namespace Compiler

variable {compiler : Compiler} {query : Dsl}

/-- A layer joins along a hop. The index is that of the entity that the hop leads
to, and so is the type, if one is named; the fields are those of the hop. -/
structure Lays (compiler : Compiler) (hop : Link) (layer : Layer) : Prop where
  index :
    ∃ options,
      compiler.resolve hop.entity = .ok options ∧
      layer.index = options.backendName ∧
      (options.typeName = some layer.type ∧ layer.type ≠ "" ∨
        (options.typeName = none ∨ options.typeName = some ("" : Text)) ∧ layer.type = compiler.docType)
  left : layer.left = hop.left
  right : layer.right = hop.right
  clause :
    compiler.ignoreVisibility = true ∧ layer.clause = none ∨
      compiler.ignoreVisibility = false ∧
        ∃ clause,
          compiler.visibility layer.index layer.type = .ok clause ∧ layer.clause = some clause

theorem typeOf_eq_iff {options : IndexOptions} {type : Text} :
    type = compiler.typeOf options ↔
      options.typeName = some type ∧ type ≠ "" ∨
        (options.typeName = none ∨ options.typeName = some ("" : Text)) ∧ type = compiler.docType := by
  unfold typeOf
  cases options.typeName with
  | none => simp
  | some name =>
      simp only [Text.isEmpty_iff, Option.some.injEq, reduceCtorEq, false_or]
      by_cases empty : name = ""
      · rw [if_pos empty]
        constructor
        · intro same
          exact .inr ⟨empty, same⟩
        · rintro (⟨rfl, named⟩ | ⟨-, same⟩)
          · exact absurd empty named
          · exact same
      · rw [if_neg empty]
        constructor
        · rintro rfl
          exact .inl ⟨rfl, empty⟩
        · rintro (⟨rfl, -⟩ | ⟨isEmpty, -⟩)
          · rfl
          · exact absurd isEmpty empty

/-- One hop puts one layer around a query. -/
theorem join_eq_ok_iff_around {hop : Link} {joined : Dsl} :
    (compiler.join hop query).outcome = .ok joined ↔
      ∃ layer, compiler.Lays hop layer ∧ joined = layer.around query := by
  rw [join_eq_ok_iff]
  constructor
  · rintro ⟨options, inner, found, filtered, rfl⟩
    rcases filter_eq_ok_iff.mp filtered with ⟨ignored, rfl⟩ | ⟨applied, clause, built, rfl⟩
    · exact ⟨⟨_, _, hop.left, hop.right, none⟩,
        ⟨⟨options, found, rfl, typeOf_eq_iff.mp rfl⟩, rfl, rfl, .inl ⟨ignored, rfl⟩⟩, rfl⟩
    · exact ⟨⟨_, _, hop.left, hop.right, some clause⟩,
        ⟨⟨options, found, rfl, typeOf_eq_iff.mp rfl⟩, rfl, rfl,
          .inr ⟨applied, clause, built, rfl⟩⟩, rfl⟩
  · rintro ⟨layer, ⟨⟨options, found, sameIndex, named⟩, sameLeft, sameRight, filters⟩, rfl⟩
    rw [← typeOf_eq_iff] at named
    rw [sameIndex, named] at filters
    refine ⟨options, layer.guarded query, found, filter_eq_ok_iff.mpr ?_, ?_⟩
    · unfold Layer.guarded
      rcases filters with ⟨ignored, none⟩ | ⟨applied, clause, built, some⟩
      · exact .inl ⟨ignored, by rw [none]⟩
      · exact .inr ⟨applied, clause, built, by rw [some]⟩
    · rw [Layer.around, sameIndex, named, sameLeft, sameRight]

theorem fold_eq_ok_iff_layers {path : List Link} {folded : Dsl} :
    (compiler.fold path query).outcome = .ok folded ↔
      ∃ layers,
        List.Forall₂ compiler.Lays path layers ∧ folded = layers.foldr Layer.around query := by
  induction path generalizing folded with
  | nil => simp [eq_comm]
  | cons hop rest inductionHypothesis =>
      rw [fold_cons_eq_ok_iff]
      simp only [inductionHypothesis, join_eq_ok_iff_around]
      constructor
      · rintro ⟨inner, ⟨layers, laid, rfl⟩, layer, lays, rfl⟩
        exact ⟨layer :: layers, .cons lays laid, rfl⟩
      · rintro ⟨layers, laid, rfl⟩
        cases laid with
        | @cons _ layer _ layers lays laid => exact ⟨_, ⟨layers, laid, rfl⟩, layer, lays, rfl⟩

/-- A path is folded from its end, in any two parts, and its errors and events
are those of the parts. A folded query is the query inside one layer for each
hop, the first outside. -/
theorem fold_composes (compiler : Compiler) (query : Dsl) :
    (∀ front back,
      compiler.fold (front ++ back) query =
        (do
          let inner ← compiler.fold back query
          compiler.fold front inner)) ∧
    ∀ path folded,
      (compiler.fold path query).outcome = .ok folded ↔
        ∃ layers,
          List.Forall₂ compiler.Lays path layers ∧
          folded = layers.foldr Layer.around query := by
  constructor
  · intro front back
    exact fold_append_eq front back
  · intro path folded
    exact fold_eq_ok_iff_layers

end Compiler

end LinkedQuery
