import LinkedQuery.Proofs.Dsl

/-!
Contract: the nested clauses of compiled queries and the fields inside them.

Owns:
- the groups of a query: its nested clauses at every depth;
- the own fields of a query: those of its leaf clauses outside subselects;
- both for encoded comparisons, which form no group and are on the field that
  is compared.

Does not own: the contents of filter clauses, and which groups an expression is
compiled to.
-/

namespace LinkedQuery

/-- A nested clause: a path and the query that nested documents under it
satisfy. -/
structure Group where
  path : Text
  query : Dsl

/-- The fields that the comparison of a field with a term looks at: an array
without members leaves nothing to look at. -/
def Field.comparedWith (field : Field) : Term → List Field
  | .array [] _ => []
  | _ => [field]

namespace Dsl

mutual

/-- The groups of a query at every depth, those inside subselects included. -/
def groups : Dsl → List Group
  | .leaf _ => []
  | .must queries => groupsOfAll queries
  | .should queries => groupsOfAll queries
  | .mustNot queries => groupsOfAll queries
  | .filtered query _ => groups query
  | .nested path query => ⟨path, query⟩ :: groups query
  | .subselect _ _ _ _ query => groups query
  | .raw _ => []

/-- The groups of several queries. -/
def groupsOfAll : List Dsl → List Group
  | [] => []
  | query :: rest => groups query ++ groupsOfAll rest

end

mutual

/-- The fields of the leaf clauses of a query, those inside subselects apart. -/
def ownFields : Dsl → List Field
  | .leaf clause => [⟨clause.field⟩]
  | .must queries => ownFieldsOfAll queries
  | .should queries => ownFieldsOfAll queries
  | .mustNot queries => ownFieldsOfAll queries
  | .filtered query _ => ownFields query
  | .nested _ query => ownFields query
  | .subselect _ _ _ _ _ => []
  | .raw _ => []

/-- The own fields of several queries. -/
def ownFieldsOfAll : List Dsl → List Field
  | [] => []
  | query :: rest => ownFields query ++ ownFieldsOfAll rest

end

theorem mem_groupsOfAll_iff {queries : List Dsl} {group : Group} :
    group ∈ groupsOfAll queries ↔ ∃ query ∈ queries, group ∈ query.groups := by
  induction queries with
  | nil => simp [groupsOfAll]
  | cons query rest inductionHypothesis =>
      simp [groupsOfAll, inductionHypothesis]

theorem mem_ownFieldsOfAll_iff {queries : List Dsl} {field : Field} :
    field ∈ ownFieldsOfAll queries ↔ ∃ query ∈ queries, field ∈ query.ownFields := by
  induction queries with
  | nil => simp [ownFieldsOfAll]
  | cons query rest inductionHypothesis =>
      simp [ownFieldsOfAll, inductionHypothesis]

/-! ## Encoded comparisons -/

section Encoded

variable {field : Field} {term : Term} {query : Dsl}

/-- A query forms no group, and its leaf clauses are on just some fields. -/
structure IsOn (query : Dsl) (fields : List Field) : Prop where
  groups_eq : query.groups = []
  mem_ownFields : ∀ other, other ∈ query.ownFields ↔ other ∈ fields

theorem IsOn.mustNot {fields : List Field} (on : query.IsOn fields) :
    (mustNot [query]).IsOn fields := by
  constructor
  · rw [groups, groupsOfAll, groupsOfAll, on.groups_eq, List.append_nil]
  · intro other
    rw [ownFields, ownFieldsOfAll, ownFieldsOfAll, List.append_nil]
    exact on.mem_ownFields other

theorem isOn_leaf {clause : Leaf} (onField : clause.field = field.name) :
    (leaf clause).IsOn [field] := by
  refine ⟨rfl, ?_⟩
  intro other
  rw [ownFields, onField]

theorem isOn_encodeSingle (encoded : encodeSingle field term = .ok query) :
    query.IsOn [field] :=
  encodeSingle_induction (motive := fun query => query.IsOn [field])
    (fun _ onField _ => isOn_leaf onField) (fun _ on => on.mustNot) encoded

theorem length_encodeMembers
    {terms : List Term}
    {members : List (Text ⊕ Dsl)}
    (encoded : encodeMembers field terms = .ok members) :
    members.length = terms.length := by
  induction terms generalizing members with
  | nil =>
      obtain rfl := Except.ok.inj encoded
      rfl
  | cons term rest inductionHypothesis =>
      obtain ⟨first, others, -, restEncoded, rfl⟩ := encodeMembers_cons_eq_ok_iff.mp encoded
      rw [List.length_cons, List.length_cons, inductionHypothesis restEncoded]

theorem isOn_of_mem_arrayClauses
    {terms : List Term}
    {members : List (Text ⊕ Dsl)}
    (encoded : encodeMembers field terms = .ok members)
    {clause : Dsl}
    (member : clause ∈ arrayClauses field members) :
    clause.IsOn [field] :=
  arrayClauses_induction (motive := fun query => query.IsOn [field])
    (fun _ onField _ => isOn_leaf onField) (fun _ on => on.mustNot) encoded member

/-- Every member has a part in some clause. -/
theorem arrayClauses_ne_nil {members : List (Text ⊕ Dsl)} (inhabited : members ≠ []) :
    arrayClauses field members ≠ [] := by
  obtain ⟨first, rest, rfl⟩ := List.exists_cons_of_ne_nil inhabited
  unfold arrayClauses
  cases first with
  | inl value => simp
  | inr query => simp

/-- The clauses of an array are on the compared field, and there is one unless
the array is empty. -/
theorem isOn_arrayClauses
    {terms : List Term}
    {members : List (Text ⊕ Dsl)}
    (encoded : encodeMembers field terms = .ok members) :
    (should (arrayClauses field members)).IsOn (if terms.isEmpty then [] else [field]) := by
  constructor
  · rw [groups, List.eq_nil_iff_forall_not_mem]
    intro group member
    obtain ⟨clause, clauseMember, inClause⟩ := mem_groupsOfAll_iff.mp member
    rw [(isOn_of_mem_arrayClauses encoded clauseMember).groups_eq] at inClause
    cases inClause
  · intro other
    rw [ownFields, mem_ownFieldsOfAll_iff]
    cases terms with
    | nil =>
        obtain rfl := Except.ok.inj encoded
        simp [arrayClauses]
    | cons term rest =>
        have inhabited : members ≠ [] := by
          have sameLength := length_encodeMembers encoded
          intro empty
          simp [empty] at sameLength
        obtain ⟨clause, clauseMember⟩ :=
          List.exists_mem_of_ne_nil _ (arrayClauses_ne_nil inhabited)
        constructor
        · intro present
          obtain ⟨found, foundMember, onFound⟩ := present
          exact ((isOn_of_mem_arrayClauses encoded foundMember).mem_ownFields other).mp onFound
        · intro same
          exact ⟨clause, clauseMember,
            ((isOn_of_mem_arrayClauses encoded clauseMember).mem_ownFields other).mpr same⟩

theorem isOn_arrayQuery
    {clauses : List Dsl}
    {fields : List Field}
    (on : (should clauses).IsOn fields) :
    (arrayQuery clauses).IsOn fields := by
  unfold arrayQuery
  split
  · obtain ⟨groupless, same⟩ := on
    constructor
    · simpa [groups, groupsOfAll] using groupless
    · simpa [ownFields, ownFieldsOfAll] using same
  · exact on

theorem isOn_encodeEquality (encoded : encodeEquality field term = .ok query) :
    query.IsOn (field.comparedWith term) := by
  cases term with
  | array terms boost =>
      obtain ⟨members, membersEncoded, rfl⟩ := except_map_eq_ok_iff.mp encoded
      have on := isOn_arrayQuery (isOn_arrayClauses membersEncoded)
      cases terms with
      | nil => exact on
      | cons term rest => exact on
  | null | matchAll | string | phrase | phraseWildcard | wildcard | fuzzy | range | regex
  | unparsedArray | proximity =>
      simp only [encodeEquality] at encoded
      exact isOn_encodeSingle encoded

theorem isOn_encodeBound
    {bound : Bound}
    {operator : Operator}
    (encoded : encodeBound bound operator field term = .ok query) :
    query.IsOn (field.comparedWith term) := by
  unfold encodeBound at encoded
  split at encoded
  · obtain rfl := Except.ok.inj encoded
    exact ⟨rfl, fun _ => Iff.rfl⟩
  · cases encoded

/-- A comparison forms no group and is on the compared field, unless that is
compared with an empty array. -/
theorem isOn_encode
    {operator : Operator}
    (encoded : encode operator field term = .ok query) :
    query.IsOn (field.comparedWith term) := by
  cases operator with
  | contains | eq => exact isOn_encodeEquality encoded
  | doesNotContain | ne =>
      obtain ⟨equal, equalEncoded, rfl⟩ := except_map_eq_ok_iff.mp encoded
      exact (isOn_encodeEquality equalEncoded).mustNot
  | regex =>
      rw [encode] at encoded
      unfold encodeRegex at encoded
      split at encoded
      · obtain rfl := Except.ok.inj encoded
        exact ⟨rfl, fun _ => Iff.rfl⟩
      · cases encoded
  | gt | gte | lt | lte => exact isOn_encodeBound encoded
  | moreLikeThis | fuzzyLikeThis => cases encoded

end Encoded

end Dsl

/-- A group constrains no field but those of its own path: each leaf clause of
its query that is not inside a subselect is on such a field. -/
def Group.KeepsToPath (group : Group) : Prop :=
  ∀ field ∈ group.query.ownFields, field.nestedPath = some group.path

end LinkedQuery
