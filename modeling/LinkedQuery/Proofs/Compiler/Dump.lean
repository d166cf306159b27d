import LinkedQuery.Proofs.Compiler.Compilation
import LinkedQuery.Proofs.Dsl
import LinkedQuery.Proofs.Expr
import LinkedQuery.Proofs.Json.RoundTrip

/-!
Contract: the text of a compiled query reads back as that query.

Owns:
- compiled queries, whose objects do not repeat a key if filter clauses do not;
- when a compiled query has a text, and what is read from it.

Does not own: where the text goes.
-/

namespace LinkedQuery

open Json

/-! ## The keys of queries -/

namespace Leaf

theorem keysDistinct_single {key : Text} {value : Json} :
    (single key value).keysDistinct = value.keysDistinct := by
  show (decide [key].Nodup && (value.keysDistinct && true)) = _
  simp

theorem keysDistinct_toJson {clause : Leaf} (differ : clause.BoundsDiffer) :
    clause.toJson.keysDistinct = true := by
  cases clause with
  | range field bounds boost =>
      have keys :
          (bounds.map fun bound => bound.1.key) = (bounds.map Prod.fst).map Bound.key := by
        rw [List.map_map]
        rfl
      have noBoost : ∀ bound : Bound, bound.key ≠ "boost" := by
        intro bound
        cases bound <;> decide
      rw [toJson, keysDistinct_single, keysDistinct_single, keysDistinct_object_iff]
      constructor
      · rw [List.map_append, List.map_map]
        show (bounds.map (fun bound => bound.1.key) ++ [("boost" : Text)]).Nodup
        rw [keys, List.nodup_append]
        refine ⟨List.Nodup.map Bound.key_injective differ, List.pairwise_singleton _ _, ?_⟩
        rintro key keyMember other otherMember rfl
        obtain ⟨bound, -, rfl⟩ := List.mem_map.mp keyMember
        exact noBoost bound (List.mem_singleton.mp otherMember)
      · intro member isField
        rcases List.mem_append.mp isField with isBound | isBoost
        · obtain ⟨bound, -, rfl⟩ := List.mem_map.mp isBound
          rfl
        · obtain rfl := List.mem_singleton.mp isBoost
          rfl
  | terms field values =>
      rw [toJson, keysDistinct_single, keysDistinct_single, keysDistinct_array_iff]
      intro item member
      obtain ⟨value, -, rfl⟩ := List.mem_map.mp member
      rfl
  | present | term | phrase | phrasePrefix | wildcard | fuzzy | regex =>
      rw [toJson, keysDistinct_single, keysDistinct_single]
      rfl

end Leaf

namespace Dsl

variable {query : Dsl} {queries : List Dsl}

theorem keysDistinct_ofText? (text : Option Text) : (ofText? text).keysDistinct = true := by
  cases text <;> rfl

/-- A combination of queries under one key. -/
theorem keysDistinct_boolean
    (key : Text)
    (each : ∀ query ∈ queries, query.toJson.keysDistinct = true) :
    (boolean [(key, .array (toJsons queries))]).keysDistinct = true := by
  show (Leaf.single "bool" (Leaf.single key (.array (toJsons queries)))).keysDistinct = true
  rw [Leaf.keysDistinct_single, Leaf.keysDistinct_single, keysDistinct_array_iff, toJsons_eq_map]
  intro item member
  obtain ⟨query, queryMember, rfl⟩ := List.mem_map.mp member
  exact each query queryMember

theorem keysDistinct_filtered
    {clause : Json}
    (inner : query.toJson.keysDistinct = true)
    (distinct : clause.keysDistinct = true) :
    (filtered query clause).toJson.keysDistinct = true := by
  show (Leaf.single "bool" (.object [("must", .array [query.toJson]), ("filter", .array [clause])]
    )).keysDistinct = true
  rw [Leaf.keysDistinct_single, keysDistinct_object_iff]
  refine ⟨show [("must" : Text), "filter"].Nodup by decide, ?_⟩
  simp [keysDistinct, allKeysDistinct, inner, distinct]

theorem keysDistinct_nested {path : Text} (inner : query.toJson.keysDistinct = true) :
    (nested path query).toJson.keysDistinct = true := by
  show (Leaf.single "nested" (.object [("path", .string path), ("query", query.toJson)])
    ).keysDistinct = true
  rw [Leaf.keysDistinct_single, keysDistinct_object_iff]
  refine ⟨show [("path" : Text), "query"].Nodup by decide, ?_⟩
  simp [keysDistinct, inner]

theorem keysDistinct_subselect
    {index type : Text}
    {left right : Option Text}
    (inner : query.toJson.keysDistinct = true) :
    (subselect index type left right query).toJson.keysDistinct = true := by
  show (Leaf.single "subselect"
    (.object
      [("index", .string index), ("type", .string type), ("left_fieldname", ofText? left),
       ("right_fieldname", ofText? right), ("query", query.toJson)])).keysDistinct = true
  rw [Leaf.keysDistinct_single, keysDistinct_object_iff]
  refine ⟨?_, ?_⟩
  · show [("index" : Text), "type", "left_fieldname", "right_fieldname", "query"].Nodup
    decide
  · simp [keysDistinct, keysDistinct_ofText?, inner]

/-- The objects of an encoded comparison do not repeat a key. -/
theorem keysDistinct_encode
    {operator : Operator}
    {field : Field}
    {term : Term}
    (encoded : encode operator field term = .ok query) :
    query.toJson.keysDistinct = true := by
  refine encode_induction (motive := fun query => query.toJson.keysDistinct = true) ?_ ?_ ?_ encoded
  · intro clause _ differ
    exact Leaf.keysDistinct_toJson differ
  · intro queries each
    exact keysDistinct_boolean "should" each
  · intro query distinct
    exact keysDistinct_boolean "must_not" (List.forall_mem_singleton.mpr distinct)

end Dsl

namespace Compiler

variable {compiler : Compiler} {root : Link} {expr : Expr} {query : Dsl}

/-- No object of a filter clause repeats a key. -/
def ClausesDistinct (compiler : Compiler) : Prop :=
  ∀ index type clause, compiler.visibility index type = .ok clause → clause.keysDistinct = true

section Keys

variable (clauses : compiler.ClausesDistinct)

include clauses

theorem keysDistinct_fold
    {path : List Link}
    {folded : Dsl}
    (inner : query.toJson.keysDistinct = true)
    (foldOk : (compiler.fold path query).outcome = .ok folded) :
    folded.toJson.keysDistinct = true := by
  induction path generalizing folded with
  | nil =>
      obtain rfl := Except.ok.inj foldOk
      exact inner
  | cons hop rest inductionHypothesis =>
      obtain ⟨joined, restOk, joinOk⟩ := fold_cons_eq_ok_iff.mp foldOk
      obtain ⟨options, filtered, -, filterOk, rfl⟩ := join_eq_ok_iff.mp joinOk
      have joinedDistinct := inductionHypothesis restOk
      apply Dsl.keysDistinct_subselect
      rcases filter_eq_ok_iff.mp filterOk with ⟨-, rfl⟩ | ⟨-, clause, built, rfl⟩
      · exact joinedDistinct
      · exact Dsl.keysDistinct_filtered joinedDistinct (clauses _ _ clause built)

omit clauses in
/-- What holds of all that items are compiled to holds of the queries together. -/
theorem forall_mem_compiled
    {motive : Dsl → Prop}
    {items : List Expr}
    {queries : List Dsl}
    (compiled :
      List.Forall₂ (fun item query => (compiler.compile root item).outcome = .ok query)
        items queries)
    (each :
      ∀ item ∈ items, ∀ query, (compiler.compile root item).outcome = .ok query → motive query) :
    ∀ query ∈ queries, motive query := by
  induction compiled with
  | nil => simp
  | cons itemCompiled _ inductionHypothesis =>
      obtain ⟨itemHolds, restHolds⟩ := List.forall_mem_cons.mp each
      exact List.forall_mem_cons.mpr ⟨itemHolds _ itemCompiled, inductionHypothesis restHolds⟩

/-- The objects of a compiled query do not repeat a key. -/
theorem keysDistinct_compile
    (compiled : (compiler.compile root expr).outcome = .ok query) :
    query.toJson.keysDistinct = true := by
  induction expr using Expr.induction generalizing root query with
  | withAll items inductionHypothesis =>
      obtain ⟨path, queries, -, itemsCompiled, rfl⟩ := compile_withAll_eq_ok_iff.mp compiled
      apply Dsl.keysDistinct_nested
      exact Dsl.keysDistinct_boolean "must"
        (forall_mem_compiled itemsCompiled fun item member _ => inductionHypothesis item member)
  | andAll items inductionHypothesis =>
      obtain ⟨queries, itemsCompiled, rfl⟩ := compile_andAll_eq_ok_iff.mp compiled
      exact Dsl.keysDistinct_boolean "must"
        (forall_mem_compiled itemsCompiled fun item member _ => inductionHypothesis item member)
  | orAny items inductionHypothesis =>
      obtain ⟨queries, itemsCompiled, rfl⟩ := compile_orAny_eq_ok_iff.mp compiled
      exact Dsl.keysDistinct_boolean "should"
        (forall_mem_compiled itemsCompiled fun item member _ => inductionHypothesis item member)
  | negation child inductionHypothesis =>
      obtain ⟨inner, childCompiled, rfl⟩ := compile_negation_eq_ok_iff.mp compiled
      exact Dsl.keysDistinct_boolean "must_not"
        (List.forall_mem_singleton.mpr (inductionHypothesis childCompiled))
  | linked link child inductionHypothesis =>
      obtain ⟨path, inner, -, childCompiled, foldOk⟩ := compile_linked_eq_ok_iff.mp compiled
      exact keysDistinct_fold clauses (inductionHypothesis childCompiled) foldOk
  | comparison operator field term =>
      exact Dsl.keysDistinct_encode (encode_of_compileComparison compiled)
  | foreign name => cases compiled

end Keys

/-- The clause of a snapshot repeats no key. -/
theorem clausesDistinct_ofCatalog
    (catalog : Catalog)
    (snapshot : Snapshot)
    (ignoreVisibility : Bool)
    (docType : Text) :
    (ofCatalog catalog snapshot ignoreVisibility docType).ClausesDistinct := by
  rintro index type clause built
  obtain rfl := Except.ok.inj built
  have numbers : (Json.array (snapshot.sortedActive.map Json.int)).keysDistinct = true := by
    rw [keysDistinct_array_iff]
    intro item member
    obtain ⟨number, -, rfl⟩ := List.mem_map.mp member
    rfl
  show (Leaf.single "visibility" (.object _)).keysDistinct = true
  rw [Leaf.keysDistinct_single, keysDistinct_object_iff]
  refine ⟨?_, ?_⟩
  · show [("myxid" : Text), "xmin", "xmax", "commandid", "active_xids", "index", "type", "field",
      "id"].Nodup
    decide
  · simp only [List.forall_mem_cons, numbers]
    simp [keysDistinct]

/-! ## Dumps -/

/-- A query that compiles has a text just if none of its integers is too long. -/
theorem dump_outcome (compiler : Compiler) (root : Link) (expr : Expr) :
    (compiler.dump root expr).outcome =
      ((compiler.compile root expr).outcome.mapError DumpFault.query).bind fun query =>
        if query.toJson.isOverlong then
          .error (.overlong .written)
        else
          .ok query.toJson.text := by
  unfold dump
  rw [Traced.outcome_bind, Traced.outcome_mapError]
  congr 1
  funext query
  show query.toJson.written.mapError DumpFault.overlong = _
  unfold Json.written
  split_ifs <;> rfl

theorem dump_eq_ok_iff {text : Text} :
    (compiler.dump root expr).outcome = .ok text ↔
      ∃ query,
        (compiler.compile root expr).outcome = .ok query ∧
        query.toJson.isOverlong = false ∧
        text = query.toJson.text := by
  simp only [dump_outcome, except_bind_eq_ok_iff, except_mapError_eq_ok_iff]
  apply exists_congr
  intro query
  apply and_congr_right
  intro _
  cases query.toJson.isOverlong with
  | true => simp
  | false => simp [eq_comm]

theorem dump_of_isOverlong
    (compiled : (compiler.compile root expr).outcome = .ok query)
    (overlong : query.toJson.isOverlong = true) :
    (compiler.dump root expr).outcome = .error (.overlong .written) := by
  rw [dump_outcome, compiled]
  show (if query.toJson.isOverlong then _ else _) = _
  rw [if_pos overlong]

/-- A compiled query that has a text reads back from it. -/
theorem printable_compile
    (clauses : compiler.ClausesDistinct)
    (compiled : (compiler.compile root expr).outcome = .ok query)
    (short : query.toJson.isOverlong = false) :
    query.toJson.Printable :=
  ⟨keysDistinct_compile clauses compiled, short⟩

end Compiler

end LinkedQuery
