import LinkedQuery.Expr

/-!
Contract: induction over expressions, their nodes and their shared paths.

Owns:
- the principles in which items and children come with the property of each;
- the nodes of an expression, each with the entity that it is about;
- how a walk, and what is overlong, go down the children;
- the nested paths of comparisons behind no link, which working off expressions
  gathers;
- what it means for expressions to share a nested path.

Does not own: the kinds of expressions.
-/

namespace LinkedQuery.Expr

/-- A property of all expressions, shown from items and children upwards. -/
@[elab_as_elim]
theorem induction
    {motive : Expr → Prop}
    (withAll : ∀ items, (∀ item ∈ items, motive item) → motive (.withAll items))
    (andAll : ∀ items, (∀ item ∈ items, motive item) → motive (.andAll items))
    (orAny : ∀ items, (∀ item ∈ items, motive item) → motive (.orAny items))
    (negation : ∀ child, motive child → motive (.negation child))
    (linked : ∀ link child, motive child → motive (.linked link child))
    (comparison : ∀ operator field term, motive (.comparison operator field term))
    (foreign : ∀ name, motive (.foreign name))
    (expr : Expr) :
    motive expr := by
  have none : ∀ item ∈ ([] : List Expr), motive item := by simp
  have more :
      ∀ (head : Expr) (tail : List Expr), motive head → (∀ item ∈ tail, motive item) →
        ∀ item ∈ head :: tail, motive item := by
    intro head tail holds restHolds item member
    rcases List.mem_cons.mp member with rfl | inTail
    · exact holds
    · exact restHolds item inTail
  exact @Expr.rec motive (fun items => ∀ item ∈ items, motive item)
    withAll andAll orAny negation linked comparison foreign none more expr

/-- A property of all expressions, shown from the children upwards. -/
@[elab_as_elim]
theorem childInduction
    {motive : Expr → Prop}
    (step : ∀ expr, (∀ child ∈ expr.children, motive child) → motive expr)
    (expr : Expr) :
    motive expr := by
  induction expr using induction with
  | withAll items inductionHypothesis => exact step _ inductionHypothesis
  | andAll items inductionHypothesis => exact step _ inductionHypothesis
  | orAny items inductionHypothesis => exact step _ inductionHypothesis
  | negation child inductionHypothesis =>
      exact step _ fun _ member => List.mem_singleton.mp member ▸ inductionHypothesis
  | linked link child inductionHypothesis =>
      exact step _ fun _ member => List.mem_singleton.mp member ▸ inductionHypothesis
  | comparison operator field term => exact step _ fun _ member => by cases member
  | foreign name => exact step _ fun _ member => by cases member

/-! ## Nodes and the entities that they are about -/

mutual

/-- The nodes of an expression about an entity, parents before children and
children from left to right, each with the entity that it is about: below a link
that is the entity of the link. -/
def placed : Expr → Entity → List (Entity × Expr)
  | .withAll items, entity => (entity, .withAll items) :: placedAll items entity
  | .andAll items, entity => (entity, .andAll items) :: placedAll items entity
  | .orAny items, entity => (entity, .orAny items) :: placedAll items entity
  | .negation child, entity => (entity, .negation child) :: placed child entity
  | .linked link child, entity => (entity, .linked link child) :: placed child link.entity
  | .comparison operator field term, entity => [(entity, .comparison operator field term)]
  | .foreign name, entity => [(entity, .foreign name)]

/-- The nodes of several expressions about one entity. -/
def placedAll : List Expr → Entity → List (Entity × Expr)
  | [], _ => []
  | expr :: rest, entity => placed expr entity ++ placedAll rest entity

end

mutual

/-- The nodes come in the order of a walk. -/
theorem placed_map_snd :
    ∀ (expr : Expr) (entity : Entity), (expr.placed entity).map Prod.snd = expr.walk
  | .withAll items, entity => by
      rw [placed, walk, List.map_cons, placedAll_map_snd items entity]
  | .andAll items, entity => by
      rw [placed, walk, List.map_cons, placedAll_map_snd items entity]
  | .orAny items, entity => by
      rw [placed, walk, List.map_cons, placedAll_map_snd items entity]
  | .negation child, entity => by
      rw [placed, walk, List.map_cons, placed_map_snd child entity]
  | .linked link child, entity => by
      rw [placed, walk, List.map_cons, placed_map_snd child link.entity]
  | .comparison operator field term, entity => rfl
  | .foreign name, entity => rfl

theorem placedAll_map_snd :
    ∀ (items : List Expr) (entity : Entity), (placedAll items entity).map Prod.snd = walkAll items
  | [], _ => rfl
  | item :: rest, entity => by
      rw [placedAll, walkAll, List.map_append, placed_map_snd item entity,
        placedAll_map_snd rest entity]

end

/-- The entity that the nodes below a node are about. -/
def entityBelow (entity : Entity) : Expr → Entity
  | .linked link _ => link.entity
  | _ => entity

theorem placed_eq_cons (expr : Expr) (entity : Entity) :
    expr.placed entity = (entity, expr) :: placedAll expr.children (expr.entityBelow entity) := by
  cases expr <;> simp [placed, placedAll, children, entityBelow]

theorem mem_placedAll_iff {items : List Expr} {entity : Entity} {node : Entity × Expr} :
    node ∈ placedAll items entity ↔ ∃ item ∈ items, node ∈ item.placed entity := by
  induction items with
  | nil => simp [placedAll]
  | cons item rest inductionHypothesis => simp [placedAll, inductionHypothesis]

/-- What is handed down from each node to its children holds of all nodes. -/
theorem placed_keeps
    (property : Entity → Expr → Prop)
    (kept :
      ∀ entity expr, property entity expr →
        ∀ child ∈ expr.children, property (expr.entityBelow entity) child)
    {expr : Expr}
    {entity : Entity}
    (holds : property entity expr)
    {node : Entity × Expr}
    (member : node ∈ expr.placed entity) :
    property node.1 node.2 := by
  induction expr using childInduction generalizing entity with
  | step expr inductionHypothesis =>
      rw [placed_eq_cons] at member
      rcases List.mem_cons.mp member with rfl | below
      · exact holds
      · obtain ⟨child, isChild, inChild⟩ := mem_placedAll_iff.mp below
        exact inductionHypothesis child isChild (kept entity expr holds child isChild) inChild

theorem mem_walkAll_iff {items : List Expr} {node : Expr} :
    node ∈ walkAll items ↔ ∃ item ∈ items, node ∈ item.walk := by
  induction items with
  | nil => simp [walkAll]
  | cons item rest inductionHypothesis => simp [walkAll, inductionHypothesis]

theorem walk_subset_walkAll
    {expr : Expr}
    {exprs : List Expr}
    (member : expr ∈ exprs) :
    expr.walk ⊆ walkAll exprs :=
  fun _ inExpr => mem_walkAll_iff.mpr ⟨expr, member, inExpr⟩

/-! ## Overlong expressions -/

@[simp] theorem isOverlong_comparison (operator : Operator) (field : Field) (term : Term) :
    (comparison operator field term).isOverlong = term.isOverlong :=
  Bool.or_false _

theorem any_walkAll (holds : Expr → Bool) (items : List Expr) :
    (walkAll items).any holds = items.any fun item => item.walk.any holds := by
  induction items with
  | nil => rfl
  | cons item rest inductionHypothesis =>
      rw [walkAll, List.any_append, inductionHypothesis, List.any_cons]

/-- A node other than a comparison is overlong just if something directly below
it is. -/
theorem isOverlong_eq_any_children
    {expr : Expr}
    (inner : expr.field? = none) :
    expr.isOverlong = (expr.children.map isOverlong).any id := by
  rw [isOverlong, walk_eq_cons, List.any_cons, any_walkAll, List.any_map]
  cases expr with
  | comparison => cases inner
  | _ => rfl

/-- An expression is overlong if something directly below it is. -/
theorem isOverlong_of_child
    {expr child : Expr}
    (member : child ∈ expr.children)
    (overlong : child.isOverlong = true) :
    expr.isOverlong = true := by
  rw [isOverlong, List.any_eq_true] at overlong ⊢
  obtain ⟨node, inChild, atNode⟩ := overlong
  refine ⟨node, ?_, atNode⟩
  rw [walk_eq_cons]
  exact List.mem_cons_of_mem _ (walk_subset_walkAll member inChild)

/-! ## Shared paths -/

mutual

/-- The nested paths of an expression's comparisons, those behind links
apart. -/
def ownPaths : Expr → List (Option Text)
  | .withAll items => ownPathsAll items
  | .andAll items => ownPathsAll items
  | .orAny items => ownPathsAll items
  | .negation child => ownPaths child
  | .linked _ _ => []
  | .comparison _ field _ => [field.nestedPath]
  | .foreign _ => []

/-- The nested paths of several expressions. -/
def ownPathsAll : List Expr → List (Option Text)
  | [] => []
  | expr :: rest => ownPaths expr ++ ownPathsAll rest

end

theorem ownPathsAll_eq_flatten (items : List Expr) :
    ownPathsAll items = (items.map ownPaths).flatten := by
  induction items with
  | nil => rfl
  | cons item rest inductionHypothesis =>
      rw [ownPathsAll, inductionHypothesis, List.map_cons, List.flatten_cons]

theorem mem_ownPathsAll_iff {items : List Expr} {path : Option Text} :
    path ∈ ownPathsAll items ↔ ∃ item ∈ items, path ∈ item.ownPaths := by
  rw [ownPathsAll_eq_flatten, ← List.flatMap_def, List.mem_flatMap]

theorem ownPaths_of_inner
    {expr : Expr}
    (notLinked : ∀ link child, expr ≠ .linked link child)
    (notComparison : ∀ operator field term, expr ≠ .comparison operator field term) :
    expr.ownPaths = ownPathsAll expr.children := by
  cases expr with
  | withAll items | andAll items | orAny items => rw [ownPaths, children]
  | negation child => rw [ownPaths, children, ownPathsAll, ownPathsAll, List.append_nil]
  | linked link child => exact absurd rfl (notLinked link child)
  | comparison operator field term => exact absurd rfl (notComparison operator field term)
  | foreign name => rw [ownPaths, children, ownPathsAll]

theorem ownPathsAll_append (front back : List Expr) :
    ownPathsAll (front ++ back) = ownPathsAll front ++ ownPathsAll back := by
  rw [ownPathsAll_eq_flatten, ownPathsAll_eq_flatten, ownPathsAll_eq_flatten, List.map_append,
    List.flatten_append]

theorem mem_notePath_iff {known : List (Option Text)} {path other : Option Text} :
    other ∈ notePath known path ↔ other ∈ known ∨ other = path := by
  unfold notePath
  split
  · rename_i present
    constructor
    · exact Or.inl
    · rintro (isKnown | rfl)
      · exact isKnown
      · exact List.contains_iff_mem.mp present
  · rw [List.mem_append, List.mem_singleton]

theorem nodup_notePath
    {known : List (Option Text)}
    (distinct : known.Nodup)
    (path : Option Text) :
    (notePath known path).Nodup := by
  unfold notePath
  split
  · exact distinct
  · rename_i absent
    rw [List.nodup_append]
    refine ⟨distinct, List.pairwise_singleton _ path, fun first isKnown second isNew same => ?_⟩
    apply absent
    rw [List.contains_iff_mem, ← List.mem_singleton.mp isNew, ← same]
    exact isKnown

/-- Working off expressions finds the paths of their comparisons, whatever the order. -/
theorem mem_gatherPaths_iff
    {known : List (Option Text)}
    {waiting : List Expr}
    {path : Option Text} :
    path ∈ gatherPaths known waiting ↔ path ∈ known ∨ path ∈ ownPathsAll waiting := by
  fun_induction gatherPaths known waiting with
  | case1 known => simp [ownPathsAll]
  | case2 known link child waiting inductionHypothesis =>
      rw [inductionHypothesis, ownPathsAll, ownPaths, List.nil_append]
  | case3 known operator field term waiting inductionHypothesis =>
      rw [inductionHypothesis, mem_notePath_iff, ownPathsAll, ownPaths, List.singleton_append,
        List.mem_cons, or_assoc]
  | case4 known expr waiting notLinked notComparison inductionHypothesis =>
      rw [inductionHypothesis, ownPathsAll, ownPaths_of_inner notLinked notComparison,
        ownPathsAll_append, List.mem_append, List.mem_append]
      exact or_congr_right or_comm

theorem nodup_gatherPaths
    {known : List (Option Text)}
    (distinct : known.Nodup)
    (waiting : List Expr) :
    (gatherPaths known waiting).Nodup := by
  fun_induction gatherPaths known waiting with
  | case1 known => exact distinct
  | case2 known link child waiting inductionHypothesis => exact inductionHypothesis distinct
  | case3 known operator field term waiting inductionHypothesis =>
      exact inductionHypothesis (nodup_notePath distinct field.nestedPath)
  | case4 known expr waiting _ _ inductionHypothesis => exact inductionHypothesis distinct

/-- The expressions hold a comparison that is not behind a link, and all those
comparisons lie on one nested path. -/
def SharesPath (exprs : List Expr) (path : Text) : Prop :=
  ownPathsAll exprs ≠ [] ∧ ∀ own ∈ ownPathsAll exprs, own = some path

/-- A list of different members is that of one item just if this is a member and no
other item is. -/
theorem eq_singleton_iff_of_nodup
    {α : Type}
    {items : List α}
    (distinct : items.Nodup)
    {item : α} :
    items = [item] ↔ item ∈ items ∧ ∀ other ∈ items, other = item := by
  constructor
  · rintro rfl
    exact ⟨List.mem_cons_self, fun other member => List.mem_singleton.mp member⟩
  · rintro ⟨member, same⟩
    match items, distinct with
    | [other], _ => rw [same other List.mem_cons_self]
    | first :: second :: rest, distinct =>
        have alike : first = second := by
          rw [same first (by simp), same second (by simp)]
        exact absurd (alike ▸ List.mem_cons_self) (List.nodup_cons.mp distinct).1

theorem sharesPath_iff {exprs : List Expr} {path : Text} :
    SharesPath exprs path ↔
      some path ∈ ownPathsAll exprs ∧ ∀ own ∈ ownPathsAll exprs, own = some path := by
  refine ⟨fun shares => ⟨?_, shares.2⟩, fun shares => ⟨List.ne_nil_of_mem shares.1, shares.2⟩⟩
  obtain ⟨own, member⟩ := List.exists_mem_of_ne_nil _ shares.1
  rw [← shares.2 own member]
  exact member

theorem sharedPath_eq_some_iff {exprs : List Expr} {path : Text} :
    sharedPath exprs = some path ↔ SharesPath exprs path := by
  have single : sharedPath exprs = some path ↔ gatherPaths [] exprs = [some path] := by
    unfold sharedPath
    split
    · rename_i found same
      rw [same, List.singleton_inj]
    · rename_i several
      constructor
      · intro never
        cases never
      · intro same
        exact absurd same (several (some path))
  have sameMembers : ∀ own, own ∈ gatherPaths [] exprs ↔ own ∈ ownPathsAll exprs := by
    intro own
    rw [mem_gatherPaths_iff]
    simp
  rw [single, eq_singleton_iff_of_nodup (nodup_gatherPaths List.nodup_nil exprs), sharesPath_iff]
  simp only [sameMembers]

/-- Expressions whose comparisons lie on the same paths share one or do not share one
alike. -/
theorem sharedPath_congr
    {exprs others : List Expr}
    (same : ∀ path, path ∈ ownPathsAll exprs ↔ path ∈ ownPathsAll others) :
    sharedPath exprs = sharedPath others := by
  apply Option.ext
  intro path
  rw [sharedPath_eq_some_iff, sharedPath_eq_some_iff, sharesPath_iff, sharesPath_iff]
  simp only [same]

end LinkedQuery.Expr
