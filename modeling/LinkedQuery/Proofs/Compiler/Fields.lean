import LinkedQuery.Proofs.Compiler.Grouping
import LinkedQuery.Proofs.Dsl.Distinctness

/-!
Contract: the fields that compiled queries ask about.

Owns:
- the fields of the leaf fragments of a query, read off its JSON form at every
  depth and behind every join;
- the fields that an expression asks about: those of its comparisons, unless they
  are with an empty array;
- both as the same names, all of them among the used fields of the expression.

Does not own: the fields of joins, and those in filter clauses.
-/

namespace LinkedQuery

/-! ## Leaf fragments -/

namespace Json

def keys : Json → List Text
  | .object fields => fields.map Prod.fst
  | _ => []

def string? : Json → Option Text
  | .string text => some text
  | _ => none

/-- The keys of leaf fragments under which the field is a key itself. -/
def leafKeys : List Text :=
  ["term", "terms", "match_phrase", "match_phrase_prefix", "wildcard", "fuzzy", "range", "regex"]

/-- The names of the fields that a fragment is on by itself: one for a leaf fragment,
which ends there, and none for a filter clause, which is not looked into. -/
def fragmentFields? (key : Text) (body : Json) : Option (List Text) :=
  if key = "filter" then
    some []
  else if key = "exists" then
    some ((body.field? "field").bind string?).toList
  else if leafKeys.contains key then
    some body.keys
  else
    none

mutual

/-- The names of the fields that the leaf fragments in a value are on, at every depth
and in order. -/
def queriedFields : Json → List Text
  | .array items => queriedFieldsOfItems items
  | .object fields => queriedFieldsOfParts fields
  | _ => []

def queriedFieldsOfItems : List Json → List Text
  | [] => []
  | item :: rest => queriedFields item ++ queriedFieldsOfItems rest

def queriedFieldsOfParts : List (Text × Json) → List Text
  | [] => []
  | (key, body) :: rest =>
      (fragmentFields? key body).getD (queriedFields body) ++ queriedFieldsOfParts rest

end

theorem queriedFieldsOfItems_eq_flatMap (items : List Json) :
    queriedFieldsOfItems items = items.flatMap queriedFields := by
  induction items with
  | nil => rfl
  | cons item rest inductionHypothesis =>
      rw [queriedFieldsOfItems, inductionHypothesis, List.flatMap_cons]

end Json

namespace Dsl

open Json

/-- The names of the fields that the leaf fragments of a query are on. -/
def queriedFields (query : Dsl) : List Text :=
  query.toJson.queriedFields

theorem queriedFieldsOfItems_toJsons (queries : List Dsl) :
    queriedFieldsOfItems (toJsons queries) = queries.flatMap queriedFields := by
  rw [queriedFieldsOfItems_eq_flatMap, toJsons_eq_map, List.flatMap_map]
  rfl

@[simp] theorem queriedFields_leaf (clause : Leaf) :
    (leaf clause).queriedFields = [clause.field] := by
  cases clause <;> rfl

/-- A combination of queries asks about what each of them asks about. -/
theorem queriedFields_boolean
    {key : Text}
    (combines : key = "must" ∨ key = "should" ∨ key = "must_not")
    (queries : List Dsl) :
    (boolean [(key, .array (toJsons queries))]).queriedFields = queries.flatMap queriedFields := by
  rw [← queriedFieldsOfItems_toJsons]
  rcases combines with rfl | rfl | rfl <;>
    simp [boolean, Json.queriedFields, queriedFieldsOfParts, fragmentFields?, leafKeys,
      Text.ofString_inj]

@[simp] theorem queriedFields_must (queries : List Dsl) :
    (must queries).queriedFields = queries.flatMap queriedFields :=
  queriedFields_boolean (.inl rfl) queries

@[simp] theorem queriedFields_should (queries : List Dsl) :
    (should queries).queriedFields = queries.flatMap queriedFields :=
  queriedFields_boolean (.inr (.inl rfl)) queries

@[simp] theorem queriedFields_mustNot (queries : List Dsl) :
    (mustNot queries).queriedFields = queries.flatMap queriedFields :=
  queriedFields_boolean (.inr (.inr rfl)) queries

/-- A filter clause adds no field. -/
@[simp] theorem queriedFields_filtered (query : Dsl) (clause : Json) :
    (filtered query clause).queriedFields = query.queriedFields := by
  simp [queriedFields, toJson, boolean, Json.queriedFields, queriedFieldsOfItems,
    queriedFieldsOfParts, fragmentFields?, leafKeys, Text.ofString_inj]

@[simp] theorem queriedFields_nested (path : Text) (query : Dsl) :
    (nested path query).queriedFields = query.queriedFields := by
  simp [queriedFields, toJson, Json.queriedFields, queriedFieldsOfParts, fragmentFields?, leafKeys,
    Text.ofString_inj]

/-- The fields of a join are no fields that a query asks about. -/
@[simp] theorem queriedFields_subselect
    (index type : Text)
    (left right : Option Text)
    (query : Dsl) :
    (subselect index type left right query).queriedFields = query.queriedFields := by
  have nothingIn : ∀ text?, (ofText? text?).queriedFields = [] := by
    intro text?
    cases text? <;> rfl
  simp [queriedFields, toJson, Json.queriedFields, queriedFieldsOfParts, fragmentFields?, leafKeys,
    Text.ofString_inj, nothingIn]

section Encoded

variable {operator : Operator} {field : Field} {term : Term} {query : Dsl}

theorem mem_queriedFields_iff_ownFields
    (encoded : encode operator field term = .ok query) :
    ∀ name, name ∈ query.queriedFields ↔ ⟨name⟩ ∈ query.ownFields := by
  refine encode_induction
    (motive := fun query => ∀ name, name ∈ query.queriedFields ↔ ⟨name⟩ ∈ query.ownFields)
    ?_ ?_ ?_ encoded
  · intro clause _ _ name
    rw [queriedFields_leaf, ownFields]
    simp
  · intro queries each name
    rw [queriedFields_should, List.mem_flatMap, ownFields, mem_ownFieldsOfAll_iff]
    exact exists_congr fun query => and_congr_right fun member => each query member name
  · intro query same name
    rw [queriedFields_mustNot, List.flatMap_singleton, same, ownFields, ownFieldsOfAll,
      ownFieldsOfAll, List.append_nil]

/-- A comparison asks about the compared field, unless that is compared with an
empty array. -/
theorem mem_queriedFields_encode_iff
    (encoded : encode operator field term = .ok query)
    {name : Text} :
    name ∈ query.queriedFields ↔ ¬ term.IsEmptyArray ∧ field.name = name := by
  rw [mem_queriedFields_iff_ownFields encoded, (isOn_encode encoded).mem_ownFields]
  unfold Field.comparedWith
  split
  · simp [Term.IsEmptyArray]
  · rename_i inhabited
    have notEmpty : ¬ term.IsEmptyArray := by
      intro isEmpty
      obtain ⟨boost, same⟩ := isEmpty
      exact inhabited boost same
    obtain ⟨compared⟩ := field
    simp [notEmpty, eq_comm]

end Encoded

end Dsl

/-! ## Used fields -/

namespace Text

theorem mem_insertSorted_iff {text other : Text} {texts : List Text} :
    other ∈ insertSorted text texts ↔ other = text ∨ other ∈ texts := by
  induction texts with
  | nil => simp [insertSorted]
  | cons first rest inductionHypothesis =>
      rw [insertSorted]
      split
      · rename_i same
        simp [same]
      · split
        · rw [List.mem_cons]
        · rw [List.mem_cons, List.mem_cons, inductionHypothesis]
          exact or_left_comm

theorem mem_sortedDistinct_iff {text : Text} {texts : List Text} :
    text ∈ sortedDistinct texts ↔ text ∈ texts := by
  induction texts with
  | nil => rfl
  | cons first rest inductionHypothesis =>
      rw [List.mem_cons, ← inductionHypothesis]
      exact mem_insertSorted_iff

end Text

namespace Expr

theorem mem_usedFields_iff {expr : Expr} {name : Text} :
    name ∈ expr.usedFields ↔
      ∃ operator field term, .comparison operator field term ∈ expr.walk ∧ field.name = name := by
  rw [usedFields, Text.mem_sortedDistinct_iff, List.mem_filterMap]
  constructor
  · intro used
    obtain ⟨node, member, named⟩ := used
    cases node with
    | comparison operator field term => exact ⟨operator, field, term, member, Option.some.inj named⟩
    | withAll | andAll | orAny | negation | linked | foreign => cases named
  · intro compared
    obtain ⟨operator, field, term, member, rfl⟩ := compared
    exact ⟨_, member, rfl⟩

/-- Some comparison in an expression, at any depth and behind any link, is of a field
with that name and not with an empty array. -/
def AsksAbout (expr : Expr) (name : Text) : Prop :=
  ∃ operator field term,
    .comparison operator field term ∈ expr.walk ∧ ¬ term.IsEmptyArray ∧ field.name = name

theorem asksAbout_comparison_iff
    {operator : Operator}
    {field : Field}
    {term : Term}
    {name : Text} :
    (comparison operator field term).AsksAbout name ↔ ¬ term.IsEmptyArray ∧ field.name = name := by
  simp [AsksAbout, walk]

/-- A node other than a comparison asks about what its children ask about. -/
theorem asksAbout_iff_children
    {expr : Expr}
    (inner : expr.field? = none)
    {name : Text} :
    expr.AsksAbout name ↔ ∃ child ∈ expr.children, child.AsksAbout name := by
  unfold AsksAbout
  rw [walk_eq_cons]
  constructor
  · intro asks
    obtain ⟨operator, field, term, member, compared⟩ := asks
    rcases List.mem_cons.mp member with rfl | below
    · cases inner
    · obtain ⟨child, isChild, inChild⟩ := mem_walkAll_iff.mp below
      exact ⟨child, isChild, operator, field, term, inChild, compared⟩
  · intro asks
    obtain ⟨child, isChild, operator, field, term, inChild, compared⟩ := asks
    have below := mem_walkAll_iff.mpr ⟨child, isChild, inChild⟩
    exact ⟨operator, field, term, List.mem_cons_of_mem _ below, compared⟩

end Expr

/-! ## Compiled queries -/

namespace Compiler

variable {compiler : Compiler} {root : Link} {query : Dsl}

theorem queriedFields_join
    {hop : Link}
    {joined : Dsl}
    (ended : (compiler.join hop query).outcome = .ok joined) :
    joined.queriedFields = query.queriedFields := by
  obtain ⟨options, inner, -, filtered, rfl⟩ := join_eq_ok_iff.mp ended
  rw [Dsl.queriedFields_subselect]
  rcases filter_eq_ok_iff.mp filtered with ⟨-, rfl⟩ | ⟨-, clause, -, rfl⟩
  · rfl
  · rw [Dsl.queriedFields_filtered]

theorem queriedFields_fold
    {path : List Link}
    {folded : Dsl}
    (ended : (compiler.fold path query).outcome = .ok folded) :
    folded.queriedFields = query.queriedFields := by
  induction path generalizing folded with
  | nil =>
      obtain rfl := Except.ok.inj ended
      rfl
  | cons hop rest inductionHypothesis =>
      obtain ⟨inner, restFolded, joined⟩ := fold_cons_eq_ok_iff.mp ended
      rw [queriedFields_join joined, inductionHypothesis restFolded]

/-- A compiled query asks about the fields that the expression asks about. -/
theorem mem_queriedFields_iff
    {expr : Expr}
    (compiled : (compiler.compile root expr).outcome = .ok query)
    {name : Text} :
    name ∈ query.queriedFields ↔ expr.AsksAbout name := by
  induction expr using Expr.induction generalizing root query with
  | withAll items inductionHypothesis =>
      obtain ⟨path, queries, -, itemsCompiled, rfl⟩ := compile_withAll_eq_ok_iff.mp compiled
      rw [Dsl.queriedFields_nested, Dsl.queriedFields_must, List.mem_flatMap,
        Expr.asksAbout_iff_children rfl]
      exact exists_query_iff itemsCompiled fun item member _ => inductionHypothesis item member
  | andAll items inductionHypothesis =>
      obtain ⟨queries, itemsCompiled, rfl⟩ := compile_andAll_eq_ok_iff.mp compiled
      rw [Dsl.queriedFields_must, List.mem_flatMap, Expr.asksAbout_iff_children rfl]
      exact exists_query_iff itemsCompiled fun item member _ => inductionHypothesis item member
  | orAny items inductionHypothesis =>
      obtain ⟨queries, itemsCompiled, rfl⟩ := compile_orAny_eq_ok_iff.mp compiled
      rw [Dsl.queriedFields_should, List.mem_flatMap, Expr.asksAbout_iff_children rfl]
      exact exists_query_iff itemsCompiled fun item member _ => inductionHypothesis item member
  | negation child inductionHypothesis =>
      obtain ⟨inner, childCompiled, rfl⟩ := compile_negation_eq_ok_iff.mp compiled
      rw [Dsl.queriedFields_mustNot, List.flatMap_singleton, inductionHypothesis childCompiled,
        @Expr.asksAbout_iff_children (.negation child) rfl]
      simp [Expr.children]
  | linked link child inductionHypothesis =>
      obtain ⟨path, inner, -, childCompiled, folded⟩ := compile_linked_eq_ok_iff.mp compiled
      -- Whether or not the path is empty, the fields of the child stay as they are.
      rw [queriedFields_fold folded, inductionHypothesis childCompiled,
        @Expr.asksAbout_iff_children (.linked link child) rfl]
      simp [Expr.children]
  | comparison operator field term =>
      have encoded := encode_of_compileComparison compiled
      rw [Dsl.mem_queriedFields_encode_iff encoded, Expr.asksAbout_comparison_iff]
  | foreign name => cases compiled

/-- The fields that a compiled query asks about are among the used fields of the
expression; they are those of the comparisons that are not with an empty array. -/
theorem queriedFields_compile
    (compiler : Compiler)
    (root : Link)
    (expr : Expr)
    (query : Dsl)
    (compiled : (compiler.compile root expr).outcome = .ok query) :
    query.queriedFields ⊆ expr.usedFields ∧
    ∀ name, name ∈ query.queriedFields ↔ expr.AsksAbout name := by
  constructor
  · intro name asked
    obtain ⟨operator, field, term, member, -, same⟩ := (mem_queriedFields_iff compiled).mp asked
    exact Expr.mem_usedFields_iff.mpr ⟨operator, field, term, member, same⟩
  · exact fun name => mem_queriedFields_iff compiled

/-! ## An exclusion, a join and an empty array -/

section Crossing

open LinkedQuery.Topology

/-- One field is none of some texts, one is compared behind a join and one with an
empty array. -/
def emptyChoice : Expr :=
  .andAll
    [.comparison .ne ⟨⟨[.char 'f']⟩⟩ (.array [.string ⟨[.char 'v']⟩ none] none),
     .linked (joinTo 'b') (.comparison .contains ⟨⟨[.char 'g']⟩⟩ .matchAll),
     .comparison .eq ⟨⟨[.char 'h']⟩⟩ (.array [] none)]

/-- The compiled form: nothing is left of the field without choices. -/
def emptyChoiceQuery : Dsl :=
  .must
    [.mustNot [.leaf (.terms ⟨[.char 'f']⟩ [⟨[.char 'v']⟩])],
     .subselect ⟨[.char 'B']⟩ ⟨[.char 't']⟩ (some ⟨[.char 'i']⟩) (some ⟨[.char 'j']⟩)
       (.filtered (.leaf (.present ⟨[.char 'g']⟩)) (quiet.clause ⟨[.char 'B']⟩ ⟨[.char 't']⟩)),
     .should []]

theorem queriedFields_compile_emptyChoice :
    ((atRest crossing).compile (about 'a') emptyChoice).outcome = .ok emptyChoiceQuery ∧
    emptyChoiceQuery.queriedFields = [⟨[.char 'f']⟩, ⟨[.char 'g']⟩] ∧
    emptyChoice.usedFields = [⟨[.char 'f']⟩, ⟨[.char 'g']⟩, ⟨[.char 'h']⟩] ∧
    emptyChoiceQuery.queriedFields ⊆ emptyChoice.usedFields ∧
    ∀ name, name ∈ emptyChoiceQuery.queriedFields ↔ emptyChoice.AsksAbout name :=
  have compiled :
      ((atRest crossing).compile (about 'a') emptyChoice).outcome = .ok emptyChoiceQuery := by
    cbv
  ⟨compiled, by simp [emptyChoiceQuery, Leaf.field], by cbv,
    queriedFields_compile _ _ _ _ compiled⟩

end Crossing

end Compiler

end LinkedQuery
