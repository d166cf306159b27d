import LinkedQuery.Proofs.Dsl.Weights
import LinkedQuery.Proofs.Json.RoundTrip

/-!
Contract: what the encoding of a comparison tells about it.

Owns:
- JSON with its floats as they are read;
- queries that are determined by their JSON form;
- the normal form of a term: its weights as floats, an array as the terms and the
  strings that it offers;
- equal encodings as equal normal forms of terms on one field.

Does not own: which terms are encoded.
-/

namespace LinkedQuery

/-! ## Floats as they are read -/

namespace Json

mutual

/-- A value with its floats as they are read: to read both zeros as one is to
compare floats as numbers. -/
def withFloats (read : Double → Double) : Json → Json
  | .float value => .float (read value)
  | .array items => .array (withFloatsAll read items)
  | .object fields => .object (withFloatsFields read fields)
  | value => value

def withFloatsAll (read : Double → Double) : List Json → List Json
  | [] => []
  | item :: rest => withFloats read item :: withFloatsAll read rest

def withFloatsFields (read : Double → Double) : List (Text × Json) → List (Text × Json)
  | [] => []
  | (key, value) :: rest => (key, withFloats read value) :: withFloatsFields read rest

end

variable {read : Double → Double}

theorem withFloatsAll_eq_map (items : List Json) :
    withFloatsAll read items = items.map (withFloats read) := by
  induction items with
  | nil => rfl
  | cons item rest inductionHypothesis =>
      rw [withFloatsAll, inductionHypothesis, List.map_cons]

theorem withFloatsFields_id
    {fields : List (Text × Json)}
    (each : ∀ field ∈ fields, field.2.withFloats id = field.2) :
    withFloatsFields id fields = fields := by
  induction fields with
  | nil => rfl
  | cons field rest inductionHypothesis =>
      obtain ⟨first, later⟩ := List.forall_mem_cons.mp each
      rw [withFloatsFields, first, inductionHypothesis later]

theorem withFloats_id (value : Json) : value.withFloats id = value := by
  induction value using Json.induction with
  | null | bool | int | float | string => rfl
  | array items inductionHypothesis =>
      rw [withFloats, withFloatsAll_eq_map, List.map_congr_left inductionHypothesis, List.map_id']
  | object fields inductionHypothesis =>
      rw [withFloats, withFloatsFields_id inductionHypothesis]

end Json

/-! ## Queries that their JSON form determines -/

theorem Text.ofString_inj {left right : String} :
    Text.ofString left = Text.ofString right ↔ left = right := by
  constructor
  · intro same
    have chars : left.toList.map CodePoint.char = right.toList.map CodePoint.char :=
      congrArg Text.toList same
    exact String.toList_inj.mp (List.map_injective_iff.mpr (fun _ _ => CodePoint.char.inj) chars)
  · rintro rfl
    rfl

namespace Leaf

theorem boundField_injective :
    Function.Injective fun bound : Bound × Text => (bound.1.key, Json.string bound.2) := by
  intro bound other same
  obtain ⟨sameKey, sameValue⟩ := Prod.mk.inj same
  exact Prod.ext (Bound.key_injective sameKey) (Json.string.inj sameValue)

theorem toJson_injective : Function.Injective toJson := by
  intro left right same
  -- The outer key tells clauses of different kinds apart.
  cases left <;> cases right <;> simp [toJson, single, Text.ofString_inj] at same
  case terms.terms =>
    obtain ⟨sameField, sameValues⟩ := same
    rw [sameField, List.map_injective_iff.mpr (fun _ _ => Json.string.inj) sameValues]
  case range.range =>
    obtain ⟨sameField, sameBounds, sameWeight⟩ := same
    rw [sameField, List.map_injective_iff.mpr boundField_injective sameBounds, sameWeight]
  all_goals simp [same]

theorem toJson_ne_boolean (clause : Leaf) (fields : List (Text × Json)) :
    clause.toJson ≠ Dsl.boolean fields := by
  cases clause <;> simp [toJson, single, Dsl.boolean, Text.ofString_inj]

end Leaf

namespace Dsl

/-- Queries of clauses on fields, by choice and exclusion. -/
inductive Plain : Dsl → Prop
  | leaf (clause : Leaf) : Plain (.leaf clause)
  | should {queries : List Dsl} (each : ∀ query ∈ queries, Plain query) : Plain (.should queries)
  | mustNot {queries : List Dsl} (each : ∀ query ∈ queries, Plain query) :
      Plain (.mustNot queries)

theorem boolean_inj {key other : Text} {items others : List Json} :
    boolean [(key, .array items)] = boolean [(other, .array others)] ↔
      key = other ∧ items = others := by
  simp [boolean]

theorem eq_of_toJsons_eq
    {queries others : List Dsl}
    (each :
      ∀ query ∈ queries, ∀ {other : Dsl},
        other.Plain → query.toJson = other.toJson → query = other)
    (plain : ∀ other ∈ others, other.Plain)
    (same : toJsons queries = toJsons others) :
    queries = others := by
  induction queries generalizing others with
  | nil =>
      cases others with
      | nil => rfl
      | cons other rest => cases same
  | cons query queries inductionHypothesis =>
      cases others with
      | nil => cases same
      | cons other others =>
          obtain ⟨sameFirst, sameRest⟩ := List.cons.inj same
          obtain ⟨firstPlain, restPlain⟩ := List.forall_mem_cons.mp plain
          obtain ⟨ofFirst, ofRest⟩ := List.forall_mem_cons.mp each
          rw [ofFirst firstPlain sameFirst, inductionHypothesis ofRest restPlain sameRest]

theorem toJson_injective_of_plain
    {left right : Dsl}
    (leftPlain : left.Plain)
    (rightPlain : right.Plain)
    (same : left.toJson = right.toJson) :
    left = right := by
  induction leftPlain generalizing right with
  | leaf clause =>
      cases rightPlain with
      | leaf other => rw [Leaf.toJson_injective same]
      | should | mustNot => exact absurd same (clause.toJson_ne_boolean _)
  | should each inductionHypothesis =>
      cases rightPlain with
      | leaf clause => exact absurd same.symm (clause.toJson_ne_boolean _)
      | should otherPlain =>
          simp only [toJson, boolean_inj] at same
          rw [eq_of_toJsons_eq inductionHypothesis otherPlain same.2]
      | mustNot =>
          simp only [toJson, boolean_inj] at same
          exact absurd same.1 (by decide)
  | mustNot each inductionHypothesis =>
      cases rightPlain with
      | leaf clause => exact absurd same.symm (clause.toJson_ne_boolean _)
      | should =>
          simp only [toJson, boolean_inj] at same
          exact absurd same.1 (by decide)
      | mustNot otherPlain =>
          simp only [toJson, boolean_inj] at same
          rw [eq_of_toJsons_eq inductionHypothesis otherPlain same.2]

end Dsl

/-! ## Normal forms -/

/-- A term other than an array, its weight as a float. -/
inductive Single
  | null
  | matchAll
  | string (value : Text) (weight : Double)
  | phrase (value : Text) (weight : Double)
  | phraseWildcard (value : Text) (weight : Double)
  | wildcard (value : Text) (weight : Double)
  | fuzzy (value : Text) (distance : Nat) (weight : Double)
  | range (start stop : Text) (weight : Double)
deriving Repr, DecidableEq

/-- The normal form of a term. -/
inductive Normal
  | alone (single : Single)
  | choice (singles : List Single) (strings : List Text)
deriving Repr, DecidableEq

/-- What an array offers; a single term that is no string stands for itself. -/
def Normal.ofParts : List Single → List Text → Normal
  | [single], [] => .alone single
  | singles, strings => .choice singles strings

namespace Term

/-- A term other than an array with its weight as it is read. -/
def single? (read : Double → Double) : Term → Option Single
  | .null => some .null
  | .matchAll => some .matchAll
  | .string value boost => some (.string value (read (Dsl.weight boost)))
  | .phrase value boost => some (.phrase value (read (Dsl.weight boost)))
  | .phraseWildcard value boost => some (.phraseWildcard value (read (Dsl.weight boost)))
  | .wildcard value boost => some (.wildcard value (read (Dsl.weight boost)))
  | .fuzzy value distance boost => some (.fuzzy value distance (read (Dsl.weight boost)))
  | .range start stop boost => some (.range start stop (read (Dsl.weight boost)))
  | _ => none

/-- The normal form of a term with its weights as they are read. The weights of
an array and of its strings do not count. -/
def normal? (read : Double → Double) : Term → Option Normal
  | .array members _ =>
      some (.ofParts
        ((members.filter fun member => member.plain?.isNone).filterMap (single? read))
        (members.filterMap plain?))
  | term => (term.single? read).map .alone

def IsEmptyArray (term : Term) : Prop :=
  ∃ boost, term = .array [] boost

/-- Two terms have one normal form and are compared with one field; an array
without members does not show the field. -/
def SameCondition (read : Double → Double) (field : Field) (term : Term) (other : Field)
    (another : Term) : Prop :=
  term.normal? read = another.normal? read ∧
    (field.name = other.name ∨ term.IsEmptyArray ∧ another.IsEmptyArray)

end Term

theorem Normal.ofParts_inj
    {singles others : List Single}
    {strings otherStrings : List Text}
    (same : ofParts singles strings = ofParts others otherStrings) :
    singles = others ∧ strings = otherStrings := by
  unfold ofParts at same
  split at same
  · split at same
    · exact ⟨congrArg ([·]) (Normal.alone.inj same), rfl⟩
    · cases same
  · split at same
    · cases same
    · exact Normal.choice.inj same

/-! ## Clauses of normal forms -/

/-- A single term as it is encoded: a phrase ends in its only wildcard. -/
def Single.IsEncoded : Single → Prop
  | .phraseWildcard value _ => value.IsStarred
  | _ => True

def Single.clause (name : Text) : Single → Dsl
  | .null => .mustNot [.leaf (.present name)]
  | .matchAll => .leaf (.present name)
  | .string value weight => .leaf (.term name value weight)
  | .phrase value weight => .leaf (.phrase name value weight)
  | .phraseWildcard value weight => .leaf (.phrasePrefix name (Dsl.withoutLast value) weight)
  | .wildcard value weight => .leaf (.wildcard name value weight)
  | .fuzzy value distance weight => .leaf (.fuzzy name value distance weight)
  | .range start stop weight => .leaf (.range name [(.gte, start), (.lte, stop)] weight)

/-- The single term that a clause on a field asks for. -/
def Leaf.single? : Leaf → Option Single
  | .present _ => some .matchAll
  | .term _ value weight => some (.string value weight)
  | .terms _ _ => none
  | .phrase _ query weight => some (.phrase query weight)
  | .phrasePrefix _ query weight => some (.phraseWildcard (query ++ "*") weight)
  | .wildcard _ value weight => some (.wildcard value weight)
  | .fuzzy _ value distance weight => some (.fuzzy value distance weight)
  | .range _ [(_, start), (_, stop)] weight => some (.range start stop weight)
  | .range _ _ _ => none
  | .regex _ _ _ => none

namespace Dsl

def clausesOf (name : Text) (singles : List Single) (strings : List Text) : List Dsl :=
  singles.map (Single.clause name) ++
    if strings.isEmpty then [] else [.leaf (.terms name strings)]

/-- The single term that a query asks for. -/
def single? : Dsl → Option Single
  | .leaf clause => clause.single?
  | .mustNot _ => some .null
  | _ => none

def strings : Dsl → List Text
  | .leaf (.terms _ values) => values
  | _ => []

/-- The queries that a query chooses from. -/
def alternatives : Dsl → List Dsl
  | .should queries => queries
  | query => [query]

variable {name : Text} {single : Single} {singles : List Single} {values : List Text}

theorem single?_clause (isEncoded : single.IsEncoded) :
    (single.clause name).single? = some single := by
  cases single with
  | phraseWildcard value weight =>
      have split := toList_of_isRightTruncated (isRightTruncated_iff.mpr isEncoded)
      have whole : withoutLast value ++ Text.ofString "*" = value :=
        congrArg Text.ofList split.symm
      show some (Single.phraseWildcard (withoutLast value ++ Text.ofString "*") weight) = _
      rw [whole]
  | null | matchAll | string | phrase | wildcard | fuzzy | range => rfl

theorem strings_clause : (single.clause name).strings = [] := by
  cases single <;> rfl

theorem plain_clause : (single.clause name).Plain := by
  cases single with
  | null => exact .mustNot (by simpa using .leaf _)
  | _ => exact .leaf _

theorem alternatives_clause : (single.clause name).alternatives = [single.clause name] := by
  cases single <;> rfl

theorem filterMap_single?_clausesOf (each : ∀ single ∈ singles, single.IsEncoded) :
    (clausesOf name singles values).filterMap single? = singles := by
  have ofSingles : (singles.map (Single.clause name)).filterMap single? = singles := by
    rw [List.filterMap_map]
    calc
      singles.filterMap (single? ∘ Single.clause name) = singles.filterMap some :=
        List.filterMap_congr fun single member => single?_clause (each single member)
      _ = singles := List.filterMap_some
  unfold clausesOf
  rw [List.filterMap_append, ofSingles]
  split
  · simp
  · simp [single?, Leaf.single?]

theorem flatMap_strings_clausesOf : (clausesOf name singles values).flatMap strings = values := by
  have ofSingles : (singles.map (Single.clause name)).flatMap strings = [] := by
    simp [strings_clause]
  unfold clausesOf
  rw [List.flatMap_append, ofSingles]
  cases values with
  | nil => rfl
  | cons value rest => simp [strings]

theorem mem_clausesOf {query : Dsl} (member : query ∈ clausesOf name singles values) :
    query.Plain ∧ query.alternatives = [query] := by
  rcases List.mem_append.mp member with own | ofStrings
  · obtain ⟨single, -, rfl⟩ := List.mem_map.mp own
    exact ⟨plain_clause, alternatives_clause⟩
  · split at ofStrings
    · cases ofStrings
    · obtain rfl := List.mem_singleton.mp ofStrings
      exact ⟨.leaf _, rfl⟩

theorem alternatives_arrayQuery :
    (arrayQuery (clausesOf name singles values)).alternatives = clausesOf name singles values := by
  rcases arrayQuery_eq_iff.mp (Eq.refl (arrayQuery (clausesOf name singles values))) with
    alone | ⟨-, several⟩
  · have member :
        arrayQuery (clausesOf name singles values) ∈ clausesOf name singles values := by
      rw [alone]
      exact List.mem_singleton_self _
    rw [(mem_clausesOf member).2, ← alone]
  · rw [several]
    rfl

theorem plain_arrayQuery : (arrayQuery (clausesOf name singles values)).Plain := by
  unfold arrayQuery
  split
  next clause alone => exact (mem_clausesOf (alone ▸ List.mem_singleton_self clause)).1
  next => exact .should fun query member => (mem_clausesOf member).1

/-- The clauses show the field, if there are any. -/
theorem name_eq_of_clausesOf_eq
    {other : Text}
    (same : clausesOf name singles values = clausesOf other singles values) :
    name = other ∨ singles = [] ∧ values = [] := by
  cases singles with
  | cons single rest =>
      have sameClause : single.clause name = single.clause other := (List.cons.inj same).1
      left
      cases single <;> simpa [Single.clause] using sameClause
  | nil =>
      cases values with
      | nil => exact .inr ⟨rfl, rfl⟩
      | cons value rest =>
          left
          simpa [clausesOf] using same

/-! ## Encoded terms -/

variable {read : Double → Double} {field : Field} {term : Term} {query : Dsl}

theorem exists_single_of_encodeSingle
    (read : Double → Double)
    (encoded : encodeSingle field term = .ok query) :
    ∃ single,
      term.single? read = some single ∧
      single.IsEncoded ∧
      query.toJson.withFloats read = (single.clause field.name).toJson := by
  cases term with
  | phraseWildcard value boost =>
      rw [encodeSingle] at encoded
      split at encoded
      next truncated =>
        obtain rfl := Except.ok.inj encoded
        exact ⟨_, rfl, isRightTruncated_iff.mp truncated, rfl⟩
      next => cases encoded
  | null | matchAll | string | phrase | wildcard | fuzzy | range =>
      obtain rfl := Except.ok.inj encoded
      exact ⟨_, rfl, trivial, rfl⟩
  | regex | array | unparsedArray | proximity => cases encoded

theorem clauses_of_encodings
    (read : Double → Double)
    {members : List Term}
    {own : List Dsl}
    (each : ∀ member ∈ members, member.IsMember)
    (encodings :
      List.Forall₂ (fun member clause => encodeEquality field member = .ok clause) members own) :
    (own.map fun clause => clause.toJson.withFloats read) =
        ((members.filterMap (Term.single? read)).map fun single =>
          (single.clause field.name).toJson) ∧
      (∀ single ∈ members.filterMap (Term.single? read), single.IsEncoded) ∧
      (members.filterMap (Term.single? read) = [] ↔ members = []) := by
  induction encodings with
  | nil => simp
  | @cons member clause rest clauses encoded _ inductionHypothesis =>
      obtain ⟨isMember, restAre⟩ := List.forall_mem_cons.mp each
      obtain ⟨sameRest, restEncoded, -⟩ := inductionHypothesis restAre
      rw [encodeEquality_of_isMember isMember] at encoded
      obtain ⟨single, normal, isEncoded, same⟩ := exists_single_of_encodeSingle read encoded
      rw [List.filterMap_cons_some normal]
      refine ⟨?_, List.forall_mem_cons.mpr ⟨isEncoded, restEncoded⟩, by simp⟩
      rw [List.map_cons, List.map_cons, same, sameRest]

theorem toJson_arrayQuery_of_map_eq
    {clauses others : List Dsl}
    (same : (clauses.map fun clause => clause.toJson.withFloats read) = others.map toJson) :
    (arrayQuery clauses).toJson.withFloats read = (arrayQuery others).toJson := by
  have sameLength : clauses.length = others.length := by
    simpa using congrArg List.length same
  by_cases single : clauses.length = 1
  · obtain ⟨clause, rfl⟩ := List.length_eq_one_iff.mp single
    obtain ⟨other, rfl⟩ := List.length_eq_one_iff.mp (sameLength ▸ single)
    exact (List.cons.inj same).1
  · have several : others.length ≠ 1 := sameLength ▸ single
    rw [arrayQuery_eq_iff.mpr (.inr ⟨single, rfl⟩), arrayQuery_eq_iff.mpr (.inr ⟨several, rfl⟩),
      toJson, toJson, toJsons_eq_map, toJsons_eq_map, ← same]
    simp [boolean, Json.withFloats, Json.withFloatsFields, Json.withFloatsAll_eq_map,
      Function.comp_def]

theorem withFloats_terms (name : Text) (values : List Text) :
    (leaf (.terms name values)).toJson.withFloats read = (leaf (.terms name values)).toJson := by
  have same : (values.map Json.string).map (Json.withFloats read) = values.map Json.string := by
    rw [List.map_map]
    rfl
  simp only [toJson, Leaf.toJson, Leaf.single, Json.withFloats, Json.withFloatsFields,
    Json.withFloatsAll_eq_map, same]

theorem filter_and_filterMap_eq_nil_iff {members : List Term} :
    (members.filter fun member => member.plain?.isNone) = [] ∧ members.filterMap Term.plain? = [] ↔
      members = [] := by
  cases members with
  | nil => simp
  | cons member rest => cases plain : member.plain? <;> simp [plain]

/-- The encoding of a term shows what its normal form offers, and nothing but
that and the field. -/
theorem exists_parts_of_encodeEquality
    (read : Double → Double)
    (encoded : encodeEquality field term = .ok query) :
    ∃ singles strings,
      term.normal? read = some (.ofParts singles strings) ∧
      (∀ single ∈ singles, single.IsEncoded) ∧
      (singles = [] ∧ strings = [] ↔ term.IsEmptyArray) ∧
      query.toJson.withFloats read =
        (arrayQuery (clausesOf field.name singles strings)).toJson := by
  cases term with
  | array members boost =>
      obtain ⟨each, own, clauses, encodings, ofStrings, choice⟩ :=
        encodeEquality_array_eq_ok_iff.mp encoded
      obtain ⟨sameOwn, areEncoded, empty⟩ :=
        clauses_of_encodings read
          (fun member inFilter => each member (List.mem_of_mem_filter inFilter)) encodings
      refine ⟨_, _, rfl, areEncoded, ?_, ?_⟩
      · rw [empty, filter_and_filterMap_eq_nil_iff]
        simp [Term.IsEmptyArray]
      · rw [← arrayQuery_eq_iff.mpr choice]
        apply toJson_arrayQuery_of_map_eq
        rcases ofStrings with ⟨none, rfl⟩ | ⟨some, rfl⟩
        · simp [clausesOf, none, sameOwn, Function.comp_def]
        · simp [clausesOf, some, sameOwn, withFloats_terms, Function.comp_def]
  | null | matchAll | string | phrase | phraseWildcard | wildcard | fuzzy | range | regex
  | unparsedArray | proximity =>
      simp only [encodeEquality] at encoded
      obtain ⟨single, normal, isEncoded, same⟩ := exists_single_of_encodeSingle read encoded
      refine ⟨[single], [], ?_, by simpa using isEncoded, by simp [Term.IsEmptyArray], same⟩
      rw [Term.normal?, normal]
      · rfl
      · simp

theorem withFloats_eq_iff_sameCondition
    (read : Double → Double)
    {other : Field}
    {another : Term}
    {otherQuery : Dsl}
    (encoded : encodeEquality field term = .ok query)
    (otherEncoded : encodeEquality other another = .ok otherQuery) :
    query.toJson.withFloats read = otherQuery.toJson.withFloats read ↔
      Term.SameCondition read field term other another := by
  obtain ⟨singles, strings, normal, areEncoded, empty, same⟩ :=
    exists_parts_of_encodeEquality read encoded
  obtain ⟨otherSingles, otherStrings, otherNormal, othersEncoded, otherEmpty, otherSame⟩ :=
    exists_parts_of_encodeEquality read otherEncoded
  rw [Term.SameCondition, normal, otherNormal, same, otherSame]
  constructor
  · intro sameJson
    -- What is offered is read off the clauses, whether or not one stands alone.
    have sameQuery := toJson_injective_of_plain plain_arrayQuery plain_arrayQuery sameJson
    have sameClauses :
        clausesOf field.name singles strings = clausesOf other.name otherSingles otherStrings := by
      rw [← alternatives_arrayQuery, sameQuery, alternatives_arrayQuery]
    have sameSingles : singles = otherSingles := by
      have asked := congrArg (List.filterMap single?) sameClauses
      rwa [filterMap_single?_clausesOf areEncoded, filterMap_single?_clausesOf othersEncoded]
        at asked
    have sameStrings : strings = otherStrings := by
      have offered := congrArg (List.flatMap Dsl.strings) sameClauses
      rwa [flatMap_strings_clausesOf, flatMap_strings_clausesOf] at offered
    subst sameSingles sameStrings
    refine ⟨rfl, ?_⟩
    rcases name_eq_of_clausesOf_eq sameClauses with sameName | nothing
    · exact .inl sameName
    · exact .inr ⟨empty.mp nothing, otherEmpty.mp nothing⟩
  · rintro ⟨sameNormal, shown⟩
    obtain ⟨rfl, rfl⟩ := Normal.ofParts_inj (Option.some.inj sameNormal)
    rcases shown with sameName | ⟨isEmpty, -⟩
    · rw [sameName]
    · obtain ⟨rfl, rfl⟩ := empty.mpr isEmpty
      rfl

end Dsl

/-- Equality with two terms is encoded as one query just if the terms have one
normal form and the fields one name, which arrays without members do not show.
This holds of queries as data, and with their floats read in any other way. -/
theorem Dsl.encodeEquality_toJson_eq_iff
    {field other : Field}
    {term another : Term}
    {query otherQuery : Dsl}
    (encoded : encodeEquality field term = .ok query)
    (otherEncoded : encodeEquality other another = .ok otherQuery) :
    (query.toJson = otherQuery.toJson ↔ Term.SameCondition id field term other another) ∧
    ∀ read : Double → Double,
      query.toJson.withFloats read = otherQuery.toJson.withFloats read ↔
        Term.SameCondition read field term other another := by
  constructor
  · have asData := withFloats_eq_iff_sameCondition id encoded otherEncoded
    rwa [Json.withFloats_id, Json.withFloats_id] at asData
  · intro read
    exact withFloats_eq_iff_sameCondition read encoded otherEncoded

/-! ## Two arrays of one normal form -/

namespace Dsl

/-- A string with a weight and a phrase without one, in an array with a weight. -/
def weightedOffer : Term :=
  .array [.string "a" (some .two), .phrase "p q" none] (some .three)

/-- The phrase with the weight one, and the string without a weight after it. -/
def plainOffer : Term :=
  .array [.phrase "p q" (some ⟨.int 1, by decide +kernel⟩), .string "a" none] none

/-- The query of both. -/
def offerQuery : Dsl :=
  .should [.leaf (.phrase "f" "p q" Double.one), .leaf (.terms "f" ["a"])]

theorem encodeEquality_toJson_eq_offers :
    encodeEquality ⟨"f"⟩ weightedOffer = .ok offerQuery ∧
    encodeEquality ⟨"f"⟩ plainOffer = .ok offerQuery ∧
    Term.SameCondition id ⟨"f"⟩ weightedOffer ⟨"f"⟩ plainOffer := by
  have weighted : encodeEquality ⟨"f"⟩ weightedOffer = .ok offerQuery := rfl
  have plain : encodeEquality ⟨"f"⟩ plainOffer = .ok offerQuery := by
    have one : Double.ofInt 1 = Double.one := by decide +kernel
    show Except.ok (should [leaf (.phrase "f" "p q" (Double.ofInt 1)), _]) = _
    rw [one]
    rfl
  exact ⟨weighted, plain, (encodeEquality_toJson_eq_iff weighted plain).1.mp rfl⟩

end Dsl

end LinkedQuery
