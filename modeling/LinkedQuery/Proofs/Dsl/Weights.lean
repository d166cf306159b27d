import LinkedQuery.Proofs.Dsl.Admission

/-!
Contract: the weights of encoded comparisons.

Owns:
- the floats under the key `boost` of a JSON value;
- the parts of a term that keep their weight: a term that is no array, and the
  members of an array that are no plain strings;
- the weights of an encoded comparison, which are those of these parts and no
  others.

Does not own: the weight of a clause whose term carries none.
-/

namespace LinkedQuery

/-! ## Floats under one key -/

namespace Json

def float? : Json → Option Double
  | .float value => some value
  | _ => none

mutual

/-- The floats under the key `boost`, at every depth and in order. -/
def boosts : Json → List Double
  | .array items => boostsOfItems items
  | .object fields => boostsOfFields fields
  | _ => []

def boostsOfItems : List Json → List Double
  | [] => []
  | item :: rest => boosts item ++ boostsOfItems rest

def boostsOfFields : List (Text × Json) → List Double
  | [] => []
  | (key, value) :: rest =>
      (if key = "boost" then value.float?.toList else []) ++ boosts value ++ boostsOfFields rest

end

theorem boostsOfItems_eq_flatMap (items : List Json) :
    boostsOfItems items = items.flatMap boosts := by
  induction items with
  | nil => rfl
  | cons item rest inductionHypothesis =>
      rw [boostsOfItems, inductionHypothesis, List.flatMap_cons]

theorem boostsOfFields_append (front back : List (Text × Json)) :
    boostsOfFields (front ++ back) = boostsOfFields front ++ boostsOfFields back := by
  induction front with
  | nil => rfl
  | cons field rest inductionHypothesis =>
      simp only [List.cons_append, boostsOfFields, inductionHypothesis, List.append_assoc]

end Json

/-- The weight of a clause that has one. -/
def Leaf.weight? : Leaf → Option Double
  | .present _ => none
  | .term _ _ boost => some boost
  | .terms _ _ => none
  | .phrase _ _ boost => some boost
  | .phrasePrefix _ _ boost => some boost
  | .wildcard _ _ boost => some boost
  | .fuzzy _ _ _ boost => some boost
  | .range _ _ boost => some boost
  | .regex _ _ boost => some boost

namespace Leaf

open Json

theorem boosts_single {key : Text} {value : Json} (noFloat : value.float? = none) :
    (single key value).boosts = value.boosts := by
  simp [single, boosts, boostsOfFields, noFloat]

theorem boostsOfFields_bounds (bounds : List (Bound × Text)) :
    boostsOfFields (bounds.map fun (bound, value) => (bound.key, Json.string value)) = [] := by
  induction bounds with
  | nil => rfl
  | cons bound rest inductionHypothesis =>
      simp [boostsOfFields, float?, boosts, inductionHypothesis]

theorem boosts_toJson (clause : Leaf) : clause.toJson.boosts = clause.weight?.toList := by
  cases clause with
  | range field bounds boost =>
      rw [toJson, boosts_single rfl, boosts_single rfl, boosts, boostsOfFields_append,
        boostsOfFields_bounds]
      rfl
  | terms field values =>
      rw [toJson, boosts_single rfl, boosts_single rfl, boosts, boostsOfItems_eq_flatMap]
      simp [weight?, boosts]
  | present | term | phrase | phrasePrefix | wildcard | fuzzy | regex =>
      rw [toJson, boosts_single rfl, boosts_single rfl]
      rfl

end Leaf

/-! ## Weighted parts -/

namespace Term

def boost? : Term → Option Boost
  | .null => none
  | .matchAll => none
  | .string _ boost => boost
  | .phrase _ boost => boost
  | .phraseWildcard _ boost => boost
  | .wildcard _ boost => boost
  | .fuzzy _ _ boost => boost
  | .range _ _ boost => boost
  | .regex _ boost => boost
  | .array _ boost => boost
  | .unparsedArray _ boost => boost
  | .proximity _ boost => boost

/-- The parts of a term that keep their weight. -/
def weighted : Term → List Term
  | .null => []
  | .matchAll => []
  | .array members _ => members.filter fun member => member.plain?.isNone
  | term => [term]

theorem weighted_of_not_array
    {term part : Term}
    (single : ∀ members boost, term ≠ .array members boost)
    (isPart : part ∈ term.weighted) :
    part = term ∧ term.weighted = [term] := by
  cases term with
  | null | matchAll => cases isPart
  | array members boost => exact absurd rfl (single members boost)
  | string | phrase | phraseWildcard | wildcard | fuzzy | range | regex | unparsedArray
  | proximity => exact ⟨List.mem_singleton.mp isPart, rfl⟩

end Term

namespace Dsl

/-- A query stands inside another, by choice and exclusion. -/
inductive Within (part : Dsl) : Dsl → Prop
  | refl : Within part part
  | should {query : Dsl} {queries : List Dsl} :
      query ∈ queries → Within part query → Within part (.should queries)
  | mustNot {query : Dsl} {queries : List Dsl} :
      query ∈ queries → Within part query → Within part (.mustNot queries)

/-- The fragment that encodes a part of a term: the whole query for the term
itself, one of the queries inside it for a member of an array. -/
def IsFragment (field : Field) (term : Term) (query : Dsl) (part : Term) (fragment : Dsl) : Prop :=
  part = term ∧ fragment = query ∨
    encodeEquality field part = .ok fragment ∧ fragment.Within query

section Encoded

variable {operator : Operator} {field : Field} {term : Term} {query : Dsl}

theorem boosts_boolean (key : Text) (queries : List Dsl) :
    (boolean [(key, .array (toJsons queries))]).boosts =
      queries.flatMap fun query => query.toJson.boosts := by
  show (Leaf.single "bool" (Leaf.single key (.array (toJsons queries)))).boosts = _
  rw [Leaf.boosts_single rfl, Leaf.boosts_single rfl, Json.boosts, Json.boostsOfItems_eq_flatMap,
    toJsons_eq_map, List.flatMap_map]

theorem boosts_mustNot (query : Dsl) : (mustNot [query]).toJson.boosts = query.toJson.boosts := by
  rw [toJson, boosts_boolean, List.flatMap_singleton]

theorem boosts_arrayQuery (clauses : List Dsl) :
    (arrayQuery clauses).toJson.boosts = clauses.flatMap fun clause => clause.toJson.boosts := by
  unfold arrayQuery
  split
  · rw [List.flatMap_singleton]
  · rw [toJson, boosts_boolean]

theorem boosts_encodeSingle (encoded : encodeSingle field term = .ok query) :
    query.toJson.boosts = term.weighted.map fun part => weight part.boost? := by
  cases term with
  | phraseWildcard value boost =>
      rw [encodeSingle] at encoded
      split at encoded
      · obtain rfl := Except.ok.inj encoded
        exact Leaf.boosts_toJson _
      · cases encoded
  | null =>
      obtain rfl := Except.ok.inj encoded
      rw [boosts_mustNot]
      exact Leaf.boosts_toJson _
  | matchAll | string | phrase | wildcard | fuzzy | range =>
      obtain rfl := Except.ok.inj encoded
      exact Leaf.boosts_toJson _
  | regex | array | unparsedArray | proximity => cases encoded

theorem boosts_member
    (isMember : term.IsMember)
    (notPlain : term.plain?.isNone = true)
    (encoded : encodeEquality field term = .ok query) :
    query.toJson.boosts = [weight term.boost?] := by
  rw [encodeEquality_of_isMember isMember] at encoded
  rw [boosts_encodeSingle encoded]
  cases term with
  | phrase | phraseWildcard | wildcard | fuzzy => rfl
  | string => cases notPlain
  | null | matchAll | range | regex | array | unparsedArray | proximity => cases isMember

theorem boosts_encodings
    {members : List Term}
    {own : List Dsl}
    (kept : ∀ member ∈ members, member.IsMember ∧ member.plain?.isNone = true)
    (encodings :
      List.Forall₂ (fun member clause => encodeEquality field member = .ok clause) members own) :
    (own.flatMap fun clause => clause.toJson.boosts) =
        (members.map fun member => weight member.boost?) ∧
      ∀ member ∈ members, ∃ clause ∈ own,
        encodeEquality field member = .ok clause ∧
        clause.toJson.boosts = [weight member.boost?] := by
  induction encodings with
  | nil => simp
  | @cons member clause rest clauses encoded _ inductionHypothesis =>
      obtain ⟨⟨isMember, notPlain⟩, restKept⟩ := List.forall_mem_cons.mp kept
      obtain ⟨restBoosts, restFound⟩ := inductionHypothesis restKept
      have own := boosts_member isMember notPlain encoded
      constructor
      · rw [List.flatMap_cons, own, restBoosts]
        rfl
      · intro named inMembers
        rcases List.mem_cons.mp inMembers with rfl | inRest
        · exact ⟨clause, List.mem_cons_self, encoded, own⟩
        · obtain ⟨found, inClauses, foundEncoded, foundBoosts⟩ := restFound named inRest
          exact ⟨found, List.mem_cons_of_mem clause inClauses, foundEncoded, foundBoosts⟩

/-- A choice has the weights of the members with clauses of their own: the
clause of the strings has none. -/
theorem boosts_of_isChoice
    {members : List Term}
    (each : ∀ member ∈ members, member.IsMember)
    (isChoice : IsChoice field members query) :
    query.toJson.boosts =
        ((members.filter fun member => member.plain?.isNone).map fun member =>
          weight member.boost?) ∧
      ∀ member ∈ members.filter fun member => member.plain?.isNone, ∃ fragment,
        encodeEquality field member = .ok fragment ∧
        fragment.Within query ∧
        fragment.toJson.boosts = [weight member.boost?] := by
  obtain ⟨own, clauses, encodings, ofStrings, choice⟩ := isChoice
  have kept :
      ∀ member ∈ members.filter fun member => member.plain?.isNone,
        member.IsMember ∧ member.plain?.isNone = true := by
    intro member inFilter
    obtain ⟨inMembers, notPlain⟩ := List.mem_filter.mp inFilter
    exact ⟨each member inMembers, notPlain⟩
  obtain ⟨ownBoosts, found⟩ := boosts_encodings kept encodings
  have stringsWeightless :
      (clauses.flatMap fun clause => clause.toJson.boosts) =
        own.flatMap fun clause => clause.toJson.boosts := by
    rcases ofStrings with ⟨-, rfl⟩ | ⟨-, rfl⟩
    · rfl
    · rw [List.flatMap_append, List.flatMap_singleton, toJson, Leaf.boosts_toJson]
      exact List.append_nil _
  have within : ∀ clause ∈ own, clause.Within query := by
    intro clause inOwn
    have inClauses : clause ∈ clauses := by
      rcases ofStrings with ⟨-, rfl⟩ | ⟨-, rfl⟩
      · exact inOwn
      · exact List.mem_append_left _ inOwn
    rcases choice with rfl | ⟨-, rfl⟩
    · obtain rfl := List.mem_singleton.mp inClauses
      exact .refl
    · exact .should inClauses .refl
  constructor
  · rw [← arrayQuery_eq_iff.mpr choice, boosts_arrayQuery, stringsWeightless, ownBoosts]
  · intro member inFilter
    obtain ⟨fragment, inOwn, encoded, boosts⟩ := found member inFilter
    exact ⟨fragment, encoded, within fragment inOwn, boosts⟩

theorem boosts_encode_of_not_array
    (single : ∀ members boost, term ≠ .array members boost)
    (encoded : encode operator field term = .ok query) :
    query.toJson.boosts = term.weighted.map fun part => weight part.boost? := by
  have equality :
      ∀ {query}, encodeEquality field term = .ok query →
        query.toJson.boosts = term.weighted.map fun part => weight part.boost? := by
    intro query equal
    unfold encodeEquality at equal
    split at equal
    next members boost => exact absurd rfl (single members boost)
    next => exact boosts_encodeSingle equal
  cases operator with
  | contains | eq => exact equality encoded
  | doesNotContain | ne =>
      obtain ⟨equal, equalEncoded, rfl⟩ := except_map_eq_ok_iff.mp encoded
      rw [boosts_mustNot]
      exact equality equalEncoded
  | regex =>
      rw [encode] at encoded
      unfold encodeRegex at encoded
      split at encoded
      · obtain rfl := Except.ok.inj encoded
        exact Leaf.boosts_toJson _
      · cases encoded
  | gt | gte | lt | lte =>
      rw [encode] at encoded
      unfold encodeBound at encoded
      split at encoded
      · obtain rfl := Except.ok.inj encoded
        exact Leaf.boosts_toJson _
      · cases encoded
  | moreLikeThis | fuzzyLikeThis => cases encoded

end Encoded

/-- The floats under the key `boost` of an encoded comparison are the weights of
the term, or of the members of an array that are no plain strings, and no others;
each of them stands in the fragment that encodes its part. -/
theorem encode_boosts
    {operator : Operator}
    {field : Field}
    {term : Term}
    {query : Dsl}
    (encoded : encode operator field term = .ok query) :
    (query.toJson.boosts = term.weighted.map fun part => weight part.boost?) ∧
    ∀ part ∈ term.weighted, ∃ fragment,
      IsFragment field term query part fragment ∧
      fragment.toJson.boosts = [weight part.boost?] := by
  by_cases isArray : ∃ members boost, term = .array members boost
  · obtain ⟨members, boost, rfl⟩ := isArray
    obtain ⟨each, choice, isChoice, shape⟩ := encode_array_eq_ok_iff.mp encoded
    obtain ⟨boosts, fragments⟩ := boosts_of_isChoice each isChoice
    have within : ∀ {fragment : Dsl}, fragment.Within choice → fragment.Within query := by
      intro fragment inside
      rcases shape with ⟨-, rfl⟩ | ⟨-, rfl⟩
      · exact inside
      · exact .mustNot (List.mem_singleton_self _) inside
    constructor
    · rcases shape with ⟨-, rfl⟩ | ⟨-, rfl⟩
      · exact boosts
      · rw [boosts_mustNot]
        exact boosts
    · intro part inTerm
      obtain ⟨fragment, partEncoded, inside, partBoosts⟩ := fragments part inTerm
      exact ⟨fragment, .inr ⟨partEncoded, within inside⟩, partBoosts⟩
  · have single : ∀ members boost, term ≠ .array members boost := by
      intro members boost same
      exact isArray ⟨members, boost, same⟩
    have boosts := boosts_encode_of_not_array single encoded
    refine ⟨boosts, ?_⟩
    intro part inTerm
    obtain ⟨rfl, alone⟩ := Term.weighted_of_not_array single inTerm
    exact ⟨query, .inl ⟨rfl, rfl⟩, by rw [boosts, alone]; rfl⟩

end Dsl

/-! ## Arrays with weights -/

namespace Boost

def two : Boost :=
  ⟨.int 2, by decide +kernel⟩

def three : Boost :=
  ⟨.int 3, by decide +kernel⟩

end Boost

namespace Dsl

/-- A string and a phrase in an array, each with a weight of its own. -/
def weightedParts : Term :=
  .array [.string "a" (some .two), .phrase "p q" (some .three)] (some .two)

theorem encode_boosts_weightedParts :
    ∃ query,
      encode .ne ⟨"f"⟩ weightedParts = .ok query ∧
      query.toJson.boosts = [Double.ofInt 3] :=
  ⟨_, rfl, (encode_boosts (show encode .ne ⟨"f"⟩ weightedParts = .ok _ from rfl)).1⟩

/-- A string in an array, each with a weight. -/
def weightedString : Term :=
  .array [.string "a" (some .two)] (some .three)

/-- Neither the weight of an array nor that of a string in it is encoded. -/
theorem encode_weightedString :
    encode .eq ⟨"f"⟩ weightedString = .ok (.leaf (.terms "f" ["a"])) ∧
    (leaf (.terms "f" ["a"])).toJson.boosts = [] ∧
    weightedString.boost?.isSome = true ∧
    ∃ members boost,
      weightedString = .array members boost ∧
      ∃ member ∈ members, member.boost?.isSome = true :=
  ⟨rfl, rfl, rfl, _, _, rfl, _, List.mem_singleton_self _, rfl⟩

end Dsl

end LinkedQuery
