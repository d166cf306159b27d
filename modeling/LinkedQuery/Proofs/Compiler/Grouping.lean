import LinkedQuery.Proofs.Compiler.Compilation
import LinkedQuery.Proofs.Dsl.Groups
import LinkedQuery.Proofs.Expr
import Mathlib

/-!
Contract: the nested clauses of compiled queries and the fields they constrain.

Owns:
- the fields of an expression that compile in place, which are those behind no
  join: a link to the entity that is queried already joins nothing;
- the groups of a compiled query as the groups of the expression, at every depth
  and behind every join;
- when each group constrains fields of its own path alone.

Does not own: the path of a group, which is read off comparisons behind no link.
-/

namespace LinkedQuery

namespace Expr

mutual

/-- The fields that an expression about an entity compares there. -/
def fieldsInPlace : Expr → Entity → List Field
  | .withAll items, entity => fieldsInPlaceAll items entity
  | .andAll items, entity => fieldsInPlaceAll items entity
  | .orAny items, entity => fieldsInPlaceAll items entity
  | .negation child, entity => fieldsInPlace child entity
  | .linked link child, entity =>
      if link.entity = entity then fieldsInPlace child entity else []
  | .comparison _ field term, _ => field.comparedWith term
  | .foreign _, _ => []

/-- The fields that several expressions about an entity compare there. -/
def fieldsInPlaceAll : List Expr → Entity → List Field
  | [], _ => []
  | expr :: rest, entity => fieldsInPlace expr entity ++ fieldsInPlaceAll rest entity

end

theorem mem_fieldsInPlaceAll_iff {items : List Expr} {entity : Entity} {field : Field} :
    field ∈ fieldsInPlaceAll items entity ↔ ∃ item ∈ items, field ∈ item.fieldsInPlace entity := by
  induction items with
  | nil => simp [fieldsInPlaceAll]
  | cons item rest inductionHypothesis => simp [fieldsInPlaceAll, inductionHypothesis]

/-- No node of an expression is a link to the entity that it is about. -/
def LinksAway (expr : Expr) (entity : Entity) : Prop :=
  ∀ source link child, (source, .linked link child) ∈ expr.placed entity → link.entity ≠ source

theorem LinksAway.child
    {expr : Expr}
    {entity : Entity}
    (away : expr.LinksAway entity)
    {child : Expr}
    (isChild : child ∈ expr.children) :
    child.LinksAway (expr.entityBelow entity) := by
  intro source link below member
  apply away source link below
  rw [placed_eq_cons]
  exact List.mem_cons_of_mem _ (mem_placedAll_iff.mpr ⟨child, isChild, member⟩)

theorem LinksAway.of_placed
    {expr node : Expr}
    {root entity : Entity}
    (away : expr.LinksAway root)
    (placed : (entity, node) ∈ expr.placed root) :
    node.LinksAway entity := by
  apply placed_keeps (fun source inner => inner.LinksAway source) _ away placed
  intro source inner innerAway child isChild
  exact innerAway.child isChild

/-- Where all links lead away, the fields in place are compared behind no
link. -/
theorem LinksAway.nestedPath_mem_ownPaths
    {expr : Expr}
    {entity : Entity}
    (away : expr.LinksAway entity)
    {field : Field}
    (inPlace : field ∈ expr.fieldsInPlace entity) :
    field.nestedPath ∈ expr.ownPaths := by
  induction expr using Expr.induction with
  | withAll items inductionHypothesis | andAll items inductionHypothesis
  | orAny items inductionHypothesis =>
      rw [fieldsInPlace] at inPlace
      obtain ⟨item, member, inItem⟩ := mem_fieldsInPlaceAll_iff.mp inPlace
      rw [ownPaths]
      exact mem_ownPathsAll_iff.mpr
        ⟨item, member, inductionHypothesis item member (away.child member) inItem⟩
  | negation child inductionHypothesis =>
      rw [fieldsInPlace] at inPlace
      rw [ownPaths]
      exact inductionHypothesis (away.child (List.mem_singleton.mpr rfl)) inPlace
  | linked link child inductionHypothesis =>
      have leads : link.entity ≠ entity := by
        apply away entity link child
        rw [placed_eq_cons]
        exact List.mem_cons_self
      rw [fieldsInPlace, if_neg leads] at inPlace
      cases inPlace
  | comparison operator compared term =>
      rw [fieldsInPlace] at inPlace
      have same : field = compared := by
        unfold Field.comparedWith at inPlace
        split at inPlace
        · cases inPlace
        · exact List.mem_singleton.mp inPlace
      rw [same, ownPaths]
      exact List.mem_singleton.mpr rfl
  | foreign name => cases inPlace

end Expr

namespace Compiler

variable {compiler : Compiler} {root : Link} {query : Dsl}

/-! ## Joins -/

theorem groups_join
    {hop : Link}
    {joined : Dsl}
    (ended : (compiler.join hop query).outcome = .ok joined) :
    joined.groups = query.groups ∧ joined.ownFields = [] := by
  obtain ⟨options, inner, -, filtered, rfl⟩ := join_eq_ok_iff.mp ended
  rw [Dsl.groups, Dsl.ownFields]
  rcases filter_eq_ok_iff.mp filtered with ⟨-, rfl⟩ | ⟨-, clause, -, rfl⟩
  · exact ⟨rfl, rfl⟩
  · rw [Dsl.groups]
    exact ⟨rfl, rfl⟩

theorem groups_fold
    {path : List Link}
    {folded : Dsl}
    (ended : (compiler.fold path query).outcome = .ok folded) :
    folded.groups = query.groups := by
  induction path generalizing folded with
  | nil =>
      obtain rfl := Except.ok.inj ended
      rfl
  | cons hop rest inductionHypothesis =>
      obtain ⟨inner, restFolded, joined⟩ := fold_cons_eq_ok_iff.mp ended
      rw [(groups_join joined).1, inductionHypothesis restFolded]

/-- The path to a target is empty just if the target is the root. -/
theorem path_eq_nil_iff
    {target : Entity}
    {path : List Link}
    (resolved : (compiler.resolvePath root target).outcome = .ok path) :
    path = [] ↔ target = root.entity := by
  obtain ⟨-, first⟩ := resolvePath_eq_ok_iff.mp resolved
  constructor
  · intro empty
    subst empty
    exact first.chain.symm
  · intro same
    subst same
    exact first.unique (Traversal.firstChain_nil root.entity)

theorem ownFields_fold
    {path : List Link}
    (joins : path ≠ [])
    {folded : Dsl}
    (ended : (compiler.fold path query).outcome = .ok folded) :
    folded.ownFields = [] := by
  obtain ⟨hop, rest, rfl⟩ := List.exists_cons_of_ne_nil joins
  obtain ⟨inner, -, joined⟩ := fold_cons_eq_ok_iff.mp ended
  exact (groups_join joined).2

/-! ## Fields and groups -/

/-- What holds of some query holds of the item it is compiled from. -/
theorem exists_query_iff
    {items : List Expr}
    {queries : List Dsl}
    (compiled :
      List.Forall₂ (fun item query => (compiler.compile root item).outcome = .ok query)
        items queries)
    {ofQuery : Dsl → Prop}
    {ofItem : Expr → Prop}
    (same :
      ∀ item ∈ items, ∀ query, (compiler.compile root item).outcome = .ok query →
        (ofQuery query ↔ ofItem item)) :
    (∃ query ∈ queries, ofQuery query) ↔ ∃ item ∈ items, ofItem item := by
  induction compiled with
  | nil => simp
  | cons itemCompiled _ inductionHypothesis =>
      obtain ⟨sameFirst, sameRest⟩ := List.forall_mem_cons.mp same
      simp [sameFirst _ itemCompiled, inductionHypothesis sameRest]

/-- The own fields of a compiled query are those that the expression compares in
place. -/
theorem mem_ownFields_iff
    {expr : Expr}
    (compiled : (compiler.compile root expr).outcome = .ok query)
    {field : Field} :
    field ∈ query.ownFields ↔ field ∈ expr.fieldsInPlace root.entity := by
  induction expr using Expr.induction generalizing root query with
  | withAll items inductionHypothesis =>
      obtain ⟨path, queries, -, itemsCompiled, rfl⟩ := compile_withAll_eq_ok_iff.mp compiled
      rw [Dsl.ownFields, Dsl.ownFields, Expr.fieldsInPlace, Dsl.mem_ownFieldsOfAll_iff,
        Expr.mem_fieldsInPlaceAll_iff]
      exact exists_query_iff itemsCompiled fun item member _ => inductionHypothesis item member
  | andAll items inductionHypothesis =>
      obtain ⟨queries, itemsCompiled, rfl⟩ := compile_andAll_eq_ok_iff.mp compiled
      rw [Dsl.ownFields, Expr.fieldsInPlace, Dsl.mem_ownFieldsOfAll_iff,
        Expr.mem_fieldsInPlaceAll_iff]
      exact exists_query_iff itemsCompiled fun item member _ => inductionHypothesis item member
  | orAny items inductionHypothesis =>
      obtain ⟨queries, itemsCompiled, rfl⟩ := compile_orAny_eq_ok_iff.mp compiled
      rw [Dsl.ownFields, Expr.fieldsInPlace, Dsl.mem_ownFieldsOfAll_iff,
        Expr.mem_fieldsInPlaceAll_iff]
      exact exists_query_iff itemsCompiled fun item member _ => inductionHypothesis item member
  | negation child inductionHypothesis =>
      obtain ⟨inner, childCompiled, rfl⟩ := compile_negation_eq_ok_iff.mp compiled
      rw [Dsl.ownFields, Dsl.ownFieldsOfAll, Dsl.ownFieldsOfAll, List.append_nil,
        Expr.fieldsInPlace, inductionHypothesis childCompiled]
  | linked link child inductionHypothesis =>
      obtain ⟨path, inner, resolved, childCompiled, folded⟩ := compile_linked_eq_ok_iff.mp compiled
      rw [Expr.fieldsInPlace]
      -- The child stays outside subselects just if the path is empty.
      by_cases same : link.entity = root.entity
      · obtain rfl := (path_eq_nil_iff resolved).mpr same
        obtain rfl := Except.ok.inj folded
        rw [if_pos same, inductionHypothesis childCompiled, Link.entity_toSelf, same]
      · have joins : path ≠ [] := fun empty => same ((path_eq_nil_iff resolved).mp empty)
        rw [if_neg same, ownFields_fold joins folded]
  | comparison operator field term =>
      have encoded := encode_of_compileComparison compiled
      exact (Dsl.isOn_encode encoded).mem_ownFields _
  | foreign name => cases compiled

/-- A group of an expression compiles to a group of queries. -/
def Yields (compiler : Compiler) (start : Entity) (expr : Expr) (group : Group) : Prop :=
  ∃ entity items,
    (entity, .withAll items) ∈ expr.placed start ∧
    (compiler.compile (.toSelf entity) (.withAll items)).outcome =
      .ok (.nested group.path group.query)

/-- An expression yields the group that it is itself, and those of its
children. -/
theorem yields_iff {start : Entity} {expr : Expr} {group : Group} :
    compiler.Yields start expr group ↔
      (∃ items, expr = .withAll items ∧
        (compiler.compile (.toSelf start) expr).outcome = .ok (.nested group.path group.query)) ∨
      ∃ child ∈ expr.children, compiler.Yields (expr.entityBelow start) child group := by
  unfold Yields
  rw [Expr.placed_eq_cons]
  constructor
  · intro yields
    obtain ⟨entity, items, member, compiled⟩ := yields
    rcases List.mem_cons.mp member with same | below
    · obtain ⟨rfl, rfl⟩ := Prod.mk.inj same
      exact Or.inl ⟨items, rfl, compiled⟩
    · obtain ⟨child, isChild, inChild⟩ := Expr.mem_placedAll_iff.mp below
      exact Or.inr ⟨child, isChild, entity, items, inChild, compiled⟩
  · intro either
    rcases either with ⟨items, rfl, compiled⟩ | ⟨child, isChild, entity, items, inChild, compiled⟩
    · exact ⟨start, items, List.mem_cons_self, compiled⟩
    · have below := Expr.mem_placedAll_iff.mpr ⟨child, isChild, inChild⟩
      exact ⟨entity, items, List.mem_cons_of_mem _ below, compiled⟩

/-- The groups of a compiled query are those of the expression. -/
theorem mem_groups_iff
    {expr : Expr}
    (compiled : (compiler.compile root expr).outcome = .ok query)
    {group : Group} :
    group ∈ query.groups ↔ compiler.Yields root.entity expr group := by
  induction expr using Expr.induction generalizing root query with
  | withAll items inductionHypothesis =>
      have whole := compiled
      obtain ⟨path, queries, -, itemsCompiled, rfl⟩ := compile_withAll_eq_ok_iff.mp compiled
      have below := exists_query_iff itemsCompiled fun item member _ =>
        inductionHypothesis item member
      rw [yields_iff, compile_toSelf, whole, Dsl.groups, List.mem_cons, Dsl.groups,
        Dsl.mem_groupsOfAll_iff, below]
      apply or_congr _ Iff.rfl
      constructor
      · intro same
        subst same
        exact ⟨items, rfl, rfl⟩
      · intro same
        obtain ⟨-, -, sameQuery⟩ := same
        obtain ⟨rfl, sameInner⟩ := Dsl.nested.inj (Except.ok.inj sameQuery)
        rw [sameInner]
  | andAll items inductionHypothesis =>
      obtain ⟨queries, itemsCompiled, rfl⟩ := compile_andAll_eq_ok_iff.mp compiled
      have below := exists_query_iff itemsCompiled fun item member _ =>
        inductionHypothesis item member
      rw [yields_iff, Dsl.groups, Dsl.mem_groupsOfAll_iff, below]
      simp [Expr.children, Expr.entityBelow]
  | orAny items inductionHypothesis =>
      obtain ⟨queries, itemsCompiled, rfl⟩ := compile_orAny_eq_ok_iff.mp compiled
      have below := exists_query_iff itemsCompiled fun item member _ =>
        inductionHypothesis item member
      rw [yields_iff, Dsl.groups, Dsl.mem_groupsOfAll_iff, below]
      simp [Expr.children, Expr.entityBelow]
  | negation child inductionHypothesis =>
      obtain ⟨inner, childCompiled, rfl⟩ := compile_negation_eq_ok_iff.mp compiled
      rw [yields_iff, Dsl.groups, Dsl.groupsOfAll, Dsl.groupsOfAll, List.append_nil,
        inductionHypothesis childCompiled]
      simp [Expr.children, Expr.entityBelow]
  | linked link child inductionHypothesis =>
      obtain ⟨path, inner, resolved, childCompiled, folded⟩ := compile_linked_eq_ok_iff.mp compiled
      rw [yields_iff, groups_fold folded, inductionHypothesis childCompiled]
      simp [Expr.children, Expr.entityBelow]
  | comparison operator field term =>
      have encoded := encode_of_compileComparison compiled
      rw [yields_iff, (Dsl.isOn_encode encoded).groups_eq]
      simp [Expr.children]
  | foreign name => cases compiled

/-- Where an expression compiles, so do its children. -/
theorem exists_compile_child
    {start : Entity}
    {expr : Expr}
    (compiled : ∃ query, (compiler.compile (.toSelf start) expr).outcome = .ok query)
    {child : Expr}
    (isChild : child ∈ expr.children) :
    ∃ query, (compiler.compile (.toSelf (expr.entityBelow start)) child).outcome = .ok query := by
  have listed :
      ∀ {items : List Expr} {queries : List Dsl},
        List.Forall₂ (fun item query => (compiler.compile (.toSelf start) item).outcome = .ok query)
          items queries →
        ∀ item ∈ items, ∃ query, (compiler.compile (.toSelf start) item).outcome = .ok query := by
    intro items queries each
    induction each with
    | nil => simp
    | cons itemCompiled _ inductionHypothesis =>
        exact List.forall_mem_cons.mpr ⟨⟨_, itemCompiled⟩, inductionHypothesis⟩
  obtain ⟨query, compiled⟩ := compiled
  cases expr with
  | withAll items =>
      obtain ⟨path, queries, -, itemsCompiled, rfl⟩ := compile_withAll_eq_ok_iff.mp compiled
      exact listed itemsCompiled child isChild
  | andAll items =>
      obtain ⟨queries, itemsCompiled, rfl⟩ := compile_andAll_eq_ok_iff.mp compiled
      exact listed itemsCompiled child isChild
  | orAny items =>
      obtain ⟨queries, itemsCompiled, rfl⟩ := compile_orAny_eq_ok_iff.mp compiled
      exact listed itemsCompiled child isChild
  | negation inner =>
      obtain ⟨innerQuery, innerCompiled, rfl⟩ := compile_negation_eq_ok_iff.mp compiled
      obtain rfl := List.mem_singleton.mp isChild
      exact ⟨innerQuery, innerCompiled⟩
  | linked link inner =>
      obtain ⟨path, innerQuery, -, innerCompiled, -⟩ := compile_linked_eq_ok_iff.mp compiled
      obtain rfl := List.mem_singleton.mp isChild
      exact ⟨innerQuery, innerCompiled⟩
  | comparison operator field term => cases isChild
  | foreign name => cases isChild

theorem exists_compile_of_placed
    {expr node : Expr}
    {entity : Entity}
    (compiled : ∃ query, (compiler.compile root expr).outcome = .ok query)
    (placed : (entity, node) ∈ expr.placed root.entity) :
    ∃ query, (compiler.compile (.toSelf entity) node).outcome = .ok query := by
  rw [← compile_toSelf] at compiled
  apply Expr.placed_keeps
    (fun source inner => ∃ query, (compiler.compile (.toSelf source) inner).outcome = .ok query) _
    compiled placed
  intro source inner innerCompiled child isChild
  exact exists_compile_child innerCompiled isChild

/-! ## Groups that keep to their paths -/

/-- The path of a group is the shared one, and its own fields are those that the
items compare in place. -/
theorem group_of_compile_withAll
    {entity : Entity}
    {items : List Expr}
    {group : Group}
    (compiled :
      (compiler.compile (.toSelf entity) (.withAll items)).outcome =
        .ok (.nested group.path group.query)) :
    Expr.SharesPath items group.path ∧
    ∀ field, field ∈ group.query.ownFields ↔ field ∈ Expr.fieldsInPlaceAll items entity := by
  constructor
  · obtain ⟨path, queries, shared, -, same⟩ := compile_withAll_eq_ok_iff.mp compiled
    obtain ⟨samePath, -⟩ := Dsl.nested.inj same
    rw [samePath]
    exact Expr.sharedPath_eq_some_iff.mp shared
  · intro field
    have sameFields := @mem_ownFields_iff compiler (.toSelf entity) _ _ compiled field
    rwa [Dsl.ownFields, Expr.fieldsInPlace, Link.entity_toSelf] at sameFields

/-- All groups of a compiled query keep to their paths just if the items of each
group of the expression compare in place only fields of the path that they
share. This holds where all links lead away, since then the fields in place are
those that the path is read off. -/
theorem groups_keepToPath_iff
    (compiler : Compiler)
    (root : Link)
    (expr : Expr)
    (query : Dsl)
    (compiled : (compiler.compile root expr).outcome = .ok query) :
    ((∀ group ∈ query.groups, group.KeepsToPath) ↔
      ∀ entity items path,
        (entity, .withAll items) ∈ expr.placed root.entity →
        Expr.SharesPath items path →
        ∀ field ∈ Expr.fieldsInPlaceAll items entity, field.nestedPath = some path) ∧
    (expr.LinksAway root.entity → ∀ group ∈ query.groups, group.KeepsToPath) := by
  constructor
  · constructor
    · intro keep entity items path placed shared field inPlace
      obtain ⟨inner, innerCompiled⟩ := exists_compile_of_placed ⟨query, compiled⟩ placed
      obtain ⟨found, queries, foundShared, -, rfl⟩ := compile_withAll_eq_ok_iff.mp innerCompiled
      have samePath : found = path := by
        rw [Expr.sharedPath_eq_some_iff.mpr shared] at foundShared
        exact (Option.some.inj foundShared).symm
      subst samePath
      have yields : compiler.Yields root.entity expr ⟨found, .must queries⟩ :=
        ⟨entity, items, placed, innerCompiled⟩
      apply keep _ ((mem_groups_iff compiled).mpr yields)
      exact ((group_of_compile_withAll innerCompiled).2 field).mpr inPlace
    · intro inPlace group member field onField
      obtain ⟨entity, items, placed, groupCompiled⟩ := (mem_groups_iff compiled).mp member
      obtain ⟨shared, sameFields⟩ := group_of_compile_withAll groupCompiled
      exact inPlace entity items group.path placed shared field ((sameFields field).mp onField)
  · intro away group member field onField
    obtain ⟨entity, items, placed, groupCompiled⟩ := (mem_groups_iff compiled).mp member
    obtain ⟨shared, sameFields⟩ := group_of_compile_withAll groupCompiled
    have awayBelow : (Expr.withAll items).LinksAway entity := away.of_placed placed
    apply shared.2
    exact awayBelow.nestedPath_mem_ownPaths ((sameFields field).mp onField)

/-! ## A group around a join, and one around a link that joins nothing -/

section Crossing

open LinkedQuery.Topology

/-- A field under a lettered path. -/
def dotted (path name : Char) : Field :=
  ⟨⟨[.char path, .char '.', .char name]⟩⟩

/-- A field under a path has a value. -/
def present (path name : Char) : Expr :=
  .comparison .contains (dotted path name) .matchAll

/-- A group with a join to another group. -/
def joinedGroups : Expr :=
  .withAll [present 'p' 'f', .linked (joinTo 'b') (.withAll [present 'q' 'g'])]

/-- The compiled form: each group on its own side of the join. -/
def joinedGroupsQuery : Dsl :=
  .nested ⟨[.char 'p']⟩
    (.must
      [.leaf (.present (dotted 'p' 'f').name),
       .subselect ⟨[.char 'B']⟩ ⟨[.char 't']⟩ (some ⟨[.char 'i']⟩) (some ⟨[.char 'j']⟩)
         (.filtered
           (.nested ⟨[.char 'q']⟩ (.must [.leaf (.present (dotted 'q' 'g').name)]))
           (quiet.clause ⟨[.char 'B']⟩ ⟨[.char 't']⟩))])

theorem joinedGroups_linksAway : joinedGroups.LinksAway (lettered 'a') := by
  intro source link child member
  simp only [joinedGroups, present, Expr.placed, Expr.placedAll, List.append_nil, List.cons_append,
    List.nil_append, List.mem_cons, Prod.mk.injEq, reduceCtorEq, and_false, false_or, or_false,
    List.not_mem_nil, Expr.linked.injEq] at member
  obtain ⟨rfl, rfl, -⟩ := member
  decide

theorem groups_keepToPath_joinedGroups :
    ((atRest crossing).compile (about 'a') joinedGroups).outcome = .ok joinedGroupsQuery ∧
    ∀ group ∈ joinedGroupsQuery.groups, group.KeepsToPath :=
  have compiled :
      ((atRest crossing).compile (about 'a') joinedGroups).outcome = .ok joinedGroupsQuery := by
    cbv
  ⟨compiled, (groups_keepToPath_iff _ _ _ _ compiled).2 joinedGroups_linksAway⟩

/-- A group with a link to the entity that is queried already. -/
def inlinedGroup : Expr :=
  .withAll [present 'p' 'f', .linked (joinTo 'a') (present 'q' 'g')]

/-- The compiled form: one group with a field of another path. -/
def inlinedGroupQuery : Dsl :=
  .nested ⟨[.char 'p']⟩
    (.must [.leaf (.present (dotted 'p' 'f').name), .leaf (.present (dotted 'q' 'g').name)])

/-- A link to the entity that is queried already is not looked into for the path
of the group, yet its comparisons end up inside the group. -/
theorem not_keepsToPath_inlinedGroup :
    ((atRest crossing).compile (about 'a') inlinedGroup).outcome = .ok inlinedGroupQuery ∧
    ¬ ∀ group ∈ inlinedGroupQuery.groups, group.KeepsToPath := by
  constructor
  · cbv
  · intro keep
    have inside : dotted 'q' 'g' ∈ inlinedGroupQuery.ownFields := by decide
    have kept := keep _ List.mem_cons_self (dotted 'q' 'g') inside
    revert kept
    decide

end Crossing

end Compiler

end LinkedQuery
