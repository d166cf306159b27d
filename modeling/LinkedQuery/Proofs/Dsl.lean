import LinkedQuery.Dsl.Encoder
import LinkedQuery.Proofs.Traced

/-!
Contract: the join clauses inside compiled queries, and the shapes of encoded
comparisons.

Owns:
- the subselects of a query at every depth;
- the query without the filters of its subselects;
- the principle of induction over what comparisons are encoded to, which hold
  no subselect.

Does not own: the contents of filter clauses, and which filter a subselect has.
-/

namespace LinkedQuery

/-- A clause that joins the documents of an index and a type. -/
structure Subselect where
  index : Text
  type : Text
  left : Option Text
  right : Option Text
  query : Dsl

namespace Dsl

mutual

/-- The subselects of a query at every depth, outer ones before inner ones.
Filter clauses and queries that are taken as they stand are not looked into. -/
def subselects : Dsl → List Subselect
  | .leaf _ => []
  | .must queries => subselectsOfAll queries
  | .should queries => subselectsOfAll queries
  | .mustNot queries => subselectsOfAll queries
  | .filtered query _ => subselects query
  | .nested _ query => subselects query
  | .subselect index type left right query =>
      ⟨index, type, left, right, query⟩ :: subselects query
  | .raw _ => []

/-- The subselects of several queries. -/
def subselectsOfAll : List Dsl → List Subselect
  | [] => []
  | query :: rest => subselects query ++ subselectsOfAll rest

end

mutual

/-- A query in which each subselect that has a filter has the filtered query in
its place, at every depth. -/
def unfiltered : Dsl → Dsl
  | .leaf clause => .leaf clause
  | .must queries => .must (unfilteredAll queries)
  | .should queries => .should (unfilteredAll queries)
  | .mustNot queries => .mustNot (unfilteredAll queries)
  | .filtered query clause => .filtered (unfiltered query) clause
  | .nested path query => .nested path (unfiltered query)
  | .subselect index type left right (.filtered query _) =>
      .subselect index type left right (unfiltered query)
  | .subselect index type left right query =>
      .subselect index type left right (unfiltered query)
  | .raw json => .raw json

/-- Several queries, each without the filters of its subselects. -/
def unfilteredAll : List Dsl → List Dsl
  | [] => []
  | query :: rest => unfiltered query :: unfilteredAll rest

end

theorem subselectsOfAll_eq_flatMap (queries : List Dsl) :
    subselectsOfAll queries = queries.flatMap subselects := by
  induction queries with
  | nil => rfl
  | cons query rest inductionHypothesis =>
      rw [subselectsOfAll, inductionHypothesis, List.flatMap_cons]

theorem unfilteredAll_eq_map (queries : List Dsl) :
    unfilteredAll queries = queries.map unfiltered := by
  induction queries with
  | nil => rfl
  | cons query rest inductionHypothesis =>
      rw [unfilteredAll, inductionHypothesis, List.map_cons]

theorem toJsons_eq_map (queries : List Dsl) : toJsons queries = queries.map toJson := by
  induction queries with
  | nil => rfl
  | cons query rest inductionHypothesis => rw [toJsons, inductionHypothesis, List.map_cons]

mutual

/-- Without subselects there is nothing to take away. -/
theorem unfiltered_of_no_subselects :
    ∀ query : Dsl, query.subselects = [] → query.unfiltered = query
  | .leaf clause, _ => by rw [unfiltered]
  | .must queries, joinless => by
      rw [unfiltered, unfilteredAll_of_no_subselects queries joinless]
  | .should queries, joinless => by
      rw [unfiltered, unfilteredAll_of_no_subselects queries joinless]
  | .mustNot queries, joinless => by
      rw [unfiltered, unfilteredAll_of_no_subselects queries joinless]
  | .filtered query clause, joinless => by
      rw [unfiltered, unfiltered_of_no_subselects query joinless]
  | .nested path query, joinless => by
      rw [unfiltered, unfiltered_of_no_subselects query joinless]
  | .subselect index type left right query, joinless => by
      rw [subselects] at joinless
      exact absurd joinless (List.cons_ne_nil _ _)
  | .raw json, _ => by rw [unfiltered]

theorem unfilteredAll_of_no_subselects :
    ∀ queries : List Dsl, subselectsOfAll queries = [] → unfilteredAll queries = queries
  | [], _ => rfl
  | query :: rest, joinless => by
      rw [subselectsOfAll, List.append_eq_nil_iff] at joinless
      rw [unfilteredAll, unfiltered_of_no_subselects query joinless.1,
        unfilteredAll_of_no_subselects rest joinless.2]

end

/-! ## Encoded comparisons -/

end Dsl

theorem Bound.key_injective : Function.Injective Bound.key := by
  intro left right
  cases left <;> cases right <;> decide

/-- Whether the bounds of a clause are of different kinds. -/
def Leaf.BoundsDiffer : Leaf → Prop
  | .range _ bounds _ => (bounds.map Prod.fst).Nodup
  | _ => True

namespace Dsl

section Encoded

variable
  {motive : Dsl → Prop}
  {field : Field}
  {term : Term}
  {query : Dsl}
  (leaf :
    ∀ clause : Leaf, clause.field = field.name → clause.BoundsDiffer → motive (.leaf clause))
  (should : ∀ queries, (∀ query ∈ queries, motive query) → motive (.should queries))
  (mustNot : ∀ query, motive query → motive (.mustNot [query]))

include leaf mustNot

theorem encodeSingle_induction (encoded : encodeSingle field term = .ok query) : motive query := by
  cases term with
  | null =>
      obtain rfl := Except.ok.inj encoded
      exact mustNot _ (leaf _ rfl trivial)
  | phraseWildcard value boost =>
      rw [encodeSingle] at encoded
      split at encoded
      · obtain rfl := Except.ok.inj encoded
        exact leaf _ rfl trivial
      · cases encoded
  | range start stop boost =>
      obtain rfl := Except.ok.inj encoded
      exact leaf _ rfl (show [Bound.gte, Bound.lte].Nodup by decide)
  | matchAll | string | phrase | wildcard | fuzzy =>
      obtain rfl := Except.ok.inj encoded
      exact leaf _ rfl trivial
  | regex | array | unparsedArray | proximity => cases encoded

theorem encodeMember_induction (encoded : encodeMember field term = .ok (.inr query)) :
    motive query := by
  -- Every member that is no plain string is encoded as it is outside an array.
  have single :
      (encodeSingle field term).map (Sum.inr : Dsl → Text ⊕ Dsl) = .ok (.inr query) →
        motive query := by
    intro restated
    obtain ⟨alone, aloneEncoded, same⟩ := except_map_eq_ok_iff.mp restated
    obtain rfl := Sum.inr.inj same
    exact encodeSingle_induction leaf mustNot aloneEncoded
  cases term with
  | phrase | phraseWildcard | wildcard | fuzzy => exact single encoded
  | string | null | matchAll | range | regex | array | unparsedArray | proximity => cases encoded

omit leaf mustNot in
theorem encodeMembers_cons_eq_ok_iff {rest : List Term} {members : List (Text ⊕ Dsl)} :
    encodeMembers field (term :: rest) = .ok members ↔
      ∃ member others,
        encodeMember field term = .ok member ∧
        encodeMembers field rest = .ok others ∧
        members = member :: others := by
  cases headEncoded : encodeMember field term with
  | error error => simp [encodeMembers, headEncoded, bind, Except.bind]
  | ok member =>
      cases restEncoded : encodeMembers field rest with
      | error error => simp [encodeMembers, headEncoded, restEncoded, bind, Except.bind]
      | ok others =>
          simp [encodeMembers, headEncoded, restEncoded, bind, Except.bind, pure, Except.pure,
            eq_comm]

theorem encodeMembers_induction
    {terms : List Term}
    {members : List (Text ⊕ Dsl)}
    (encoded : encodeMembers field terms = .ok members)
    (member : .inr query ∈ members) :
    motive query := by
  induction terms generalizing members with
  | nil =>
      obtain rfl := Except.ok.inj encoded
      cases member
  | cons term rest inductionHypothesis =>
      obtain ⟨first, others, firstEncoded, restEncoded, rfl⟩ :=
        encodeMembers_cons_eq_ok_iff.mp encoded
      rcases List.mem_cons.mp member with rfl | inRest
      · exact encodeMember_induction leaf mustNot firstEncoded
      · exact inductionHypothesis restEncoded inRest

theorem arrayClauses_induction
    {terms : List Term}
    {members : List (Text ⊕ Dsl)}
    (encoded : encodeMembers field terms = .ok members)
    (member : query ∈ arrayClauses field members) :
    motive query := by
  rcases List.mem_append.mp member with own | strings
  · obtain ⟨found, foundMember, isClause⟩ := List.mem_filterMap.mp own
    cases found with
    | inl value => cases isClause
    | inr clause =>
        obtain rfl := Option.some.inj isClause
        exact encodeMembers_induction leaf mustNot encoded foundMember
  · split at strings
    · cases strings
    · obtain rfl := List.mem_singleton.mp strings
      exact leaf _ rfl trivial

include should

theorem encodeEquality_induction (encoded : encodeEquality field term = .ok query) :
    motive query := by
  unfold encodeEquality at encoded
  split at encoded
  · obtain ⟨members, membersEncoded, rfl⟩ := except_map_eq_ok_iff.mp encoded
    have clauses := fun clause member =>
      @arrayClauses_induction motive field clause leaf mustNot _ _ membersEncoded member
    unfold arrayQuery
    split
    next clause single => exact clauses clause (single ▸ List.mem_singleton_self clause)
    next => exact should _ clauses
  · exact encodeSingle_induction leaf mustNot encoded

/-- A property of all that comparisons of a field are encoded to, shown for
clauses on that field, for choices and for what is excluded. -/
theorem encode_induction
    {operator : Operator}
    (encoded : encode operator field term = .ok query) :
    motive query := by
  have bounded :
      ∀ {kind : Bound} {operator : Operator},
        encodeBound kind operator field term = .ok query → motive query := by
    intro kind operator boundEncoded
    unfold encodeBound at boundEncoded
    split at boundEncoded
    · obtain rfl := Except.ok.inj boundEncoded
      exact leaf _ rfl (List.pairwise_singleton _ kind)
    · cases boundEncoded
  cases operator with
  | contains | eq => exact encodeEquality_induction leaf should mustNot encoded
  | doesNotContain | ne =>
      obtain ⟨equal, equalEncoded, rfl⟩ := except_map_eq_ok_iff.mp encoded
      exact mustNot _ (encodeEquality_induction leaf should mustNot equalEncoded)
  | regex =>
      rw [encode] at encoded
      unfold encodeRegex at encoded
      split at encoded
      · obtain rfl := Except.ok.inj encoded
        exact leaf _ rfl trivial
      · cases encoded
  | gt | gte | lt | lte => exact bounded encoded
  | moreLikeThis | fuzzyLikeThis => cases encoded

end Encoded

/-- A comparison joins nothing. -/
theorem subselects_encode
    {operator : Operator}
    {field : Field}
    {term : Term}
    {query : Dsl}
    (encoded : encode operator field term = .ok query) :
    query.subselects = [] := by
  refine encode_induction (motive := fun query => query.subselects = []) ?_ ?_ ?_ encoded
  · intro clause _ _
    rfl
  · intro queries joinless
    rw [subselects, subselectsOfAll_eq_flatMap, List.flatMap_eq_nil_iff]
    exact joinless
  · intro query joinless
    rw [subselects, subselectsOfAll, joinless]
    rfl

end Dsl

end LinkedQuery
