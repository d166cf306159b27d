import LinkedQuery.Proofs.Dsl
import LinkedQuery.Proofs.QueryError
import Mathlib.Data.List.Forall2

/-!
Contract: which comparisons are encoded, and the errors of the others.

Owns:
- the table of operators with the terms that each of them admits;
- the error of every comparison outside the table, in arrays that of the first
  member that may not stand there;
- the form of encoded arrays.

Does not own: the clause of a single term.
-/

namespace LinkedQuery

/-! ## The table -/

/-- A stem without wildcards and one star after it. -/
def Text.IsStarred (text : Text) : Prop :=
  ∃ stem : List CodePoint,
    text.toList = stem ++ [.char '*'] ∧ .char '*' ∉ stem ∧ .char '?' ∉ stem

namespace Term

def plain? : Term → Option Text
  | .string value _ => some value
  | _ => none

/-- The terms that may stand in an array. -/
def IsMember : Term → Prop
  | .string _ _ => True
  | .phrase _ _ => True
  | .phraseWildcard value _ => value.IsStarred
  | .wildcard _ _ => True
  | .fuzzy _ _ _ => True
  | _ => False

/-- The terms that a field can be compared with for equality. -/
def IsValue : Term → Prop
  | .null => True
  | .matchAll => True
  | .range _ _ _ => True
  | .array members _ => ∀ member ∈ members, member.IsMember
  | term => term.IsMember

def valueError : Term → QueryError
  | .phraseWildcard value boost => .unsupportedPhrase (.phraseWildcard value boost)
  | term => .unsupportedTerm term

def memberError : Term → QueryError
  | .phraseWildcard value boost => .unsupportedPhrase (.phraseWildcard value boost)
  | term => .unsupportedMember term

end Term

namespace Operator

def isEquality : Operator → Bool
  | .contains => true
  | .eq => true
  | _ => false

def isInequality : Operator → Bool
  | .doesNotContain => true
  | .ne => true
  | _ => false

/-- The operators that ask for terms of one kind. -/
def isSelective : Operator → Bool
  | .regex => true
  | .gt => true
  | .gte => true
  | .lt => true
  | .lte => true
  | _ => false

def Admits : Operator → Term → Prop
  | .contains, term => term.IsValue
  | .eq, term => term.IsValue
  | .doesNotContain, term => term.IsValue
  | .ne, term => term.IsValue
  | .regex, term => ∃ value boost, term = .regex value boost
  | .gt, term => ∃ value boost, term = .string value boost
  | .gte, term => ∃ value boost, term = .string value boost
  | .lt, term => ∃ value boost, term = .string value boost
  | .lte, term => ∃ value boost, term = .string value boost
  | .moreLikeThis, _ => False
  | .fuzzyLikeThis, _ => False

/-- The error of an operator with a term that it does not admit. -/
inductive Rejects : Operator → Term → QueryError → Prop
  | mismatch {operator : Operator} {term : Term} :
      operator.isSelective = true →
      ¬ operator.Admits term →
      Rejects operator term (.termMismatch operator term)
  | similarity {operator : Operator} {term : Term} :
      operator = .moreLikeThis ∨ operator = .fuzzyLikeThis →
      Rejects operator term (.unsupportedOperator operator)
  | value {operator : Operator} {term : Term} :
      operator.isEquality = true ∨ operator.isInequality = true →
      ¬ term.IsValue →
      (∀ members boost, term ≠ .array members boost) →
      Rejects operator term term.valueError
  /-- The members before the one that is named may stand in an array. -/
  | member {operator : Operator} {front back : List Term} {term : Term} {boost : Option Boost} :
      operator.isEquality = true ∨ operator.isInequality = true →
      (∀ earlier ∈ front, earlier.IsMember) →
      ¬ term.IsMember →
      Rejects operator (.array (front ++ term :: back) boost) term.memberError

end Operator

namespace Dsl

/-- The query of an array: the encodings of the members that are no plain
strings, and after them one clause for the strings if there are any. A single
clause stands alone. -/
def IsChoice (field : Field) (members : List Term) (query : Dsl) : Prop :=
  ∃ own clauses : List Dsl,
    List.Forall₂ (fun member clause => encodeEquality field member = .ok clause)
      (members.filter fun member => member.plain?.isNone) own ∧
    (members.filterMap Term.plain? = [] ∧ clauses = own ∨
      members.filterMap Term.plain? ≠ [] ∧
        clauses = own ++ [.leaf (.terms field.name (members.filterMap Term.plain?))]) ∧
    (clauses = [query] ∨ clauses.length ≠ 1 ∧ query = .should clauses)

/-! ## Members of arrays -/

section Encoded

variable {field : Field} {term : Term} {operator : Operator}

/-- A text whose only wildcard is a star at its end is what stands before the
star, and the star. -/
theorem toList_of_isRightTruncated
    {value : Text}
    (truncated : isRightTruncated value = true) :
    value.toList = (withoutLast value).toList ++ [.char '*'] := by
  simp only [isRightTruncated, Bool.and_eq_true, beq_iff_eq] at truncated
  obtain ⟨⟨last, -⟩, -⟩ := truncated
  exact (List.dropLast_append_getLast? _ last).symm

theorem isRightTruncated_iff {value : Text} :
    isRightTruncated value = true ↔ value.IsStarred := by
  constructor
  · intro truncated
    have split := toList_of_isRightTruncated truncated
    simp only [isRightTruncated, Bool.and_eq_true, beq_iff_eq, split, List.count_append,
      List.contains_append] at truncated
    refine ⟨(withoutLast value).toList, split, ?_, ?_⟩
    · have once : List.count (CodePoint.char '*') (withoutLast value).toList = 0 := by
        simpa using truncated.1.2
      exact List.count_eq_zero.mp once
    · simpa using truncated.2
  · rintro ⟨stem, split, noStar, noMark⟩
    simp [isRightTruncated, split, List.count_append, List.count_eq_zero.mpr noStar, noMark]

theorem encodeMember_of_isMember (field : Field) (isMember : term.IsMember) :
    ∃ encoded, encodeMember field term = .ok encoded := by
  cases term with
  | string | phrase | wildcard | fuzzy => exact ⟨_, rfl⟩
  | phraseWildcard value boost =>
      have truncated := isRightTruncated_iff.mpr isMember
      exact ⟨_, by rw [encodeMember, encodeSingle, if_pos truncated]; rfl⟩
  | null | matchAll | range | regex | array | unparsedArray | proximity => cases isMember

theorem encodeMember_of_not_isMember (notMember : ¬ term.IsMember) :
    encodeMember field term = .error term.memberError := by
  cases term with
  | string | phrase | wildcard | fuzzy => exact absurd trivial notMember
  | phraseWildcard value boost =>
      have untruncated : ¬ isRightTruncated value = true :=
        fun truncated => notMember (isRightTruncated_iff.mp truncated)
      rw [encodeMember, encodeSingle, if_neg untruncated]
      rfl
  | null | matchAll | range | regex | array | unparsedArray | proximity => rfl

theorem encodeMembers_of_isMember
    (field : Field)
    {members : List Term}
    (each : ∀ member ∈ members, member.IsMember) :
    ∃ encoded, encodeMembers field members = .ok encoded := by
  induction members with
  | nil => exact ⟨[], rfl⟩
  | cons member rest inductionHypothesis =>
      obtain ⟨memberIs, restAre⟩ := List.forall_mem_cons.mp each
      obtain ⟨first, firstEncoded⟩ := encodeMember_of_isMember field memberIs
      obtain ⟨others, othersEncoded⟩ := inductionHypothesis restAre
      exact ⟨first :: others,
        encodeMembers_cons_eq_ok_iff.mpr ⟨first, others, firstEncoded, othersEncoded, rfl⟩⟩

/-- The members are encoded up to the first that may not stand in an array. -/
theorem encodeMembers_of_first
    {front back : List Term}
    (sound : ∀ earlier ∈ front, earlier.IsMember)
    (notMember : ¬ term.IsMember) :
    encodeMembers field (front ++ term :: back) = .error term.memberError := by
  induction front with
  | nil =>
      rw [List.nil_append, encodeMembers, encodeMember_of_not_isMember notMember]
      rfl
  | cons earlier front inductionHypothesis =>
      obtain ⟨earlierIs, frontAre⟩ := List.forall_mem_cons.mp sound
      obtain ⟨encoded, earlierEncoded⟩ := encodeMember_of_isMember field earlierIs
      rw [List.cons_append, encodeMembers, earlierEncoded, inductionHypothesis frontAre]
      rfl

theorem all_isMember_or_first (members : List Term) :
    (∀ member ∈ members, member.IsMember) ∨
      ∃ front member back,
        members = front ++ member :: back ∧
        (∀ earlier ∈ front, earlier.IsMember) ∧
        ¬ member.IsMember := by
  induction members with
  | nil => exact .inl (by simp)
  | cons first rest inductionHypothesis =>
      by_cases firstIs : first.IsMember
      · rcases inductionHypothesis with restAre | ⟨front, member, back, rfl, sound, notMember⟩
        · exact .inl (List.forall_mem_cons.mpr ⟨firstIs, restAre⟩)
        · exact .inr ⟨first :: front, member, back, rfl,
            List.forall_mem_cons.mpr ⟨firstIs, sound⟩, notMember⟩
      · exact .inr ⟨[], first, rest, rfl, by simp, firstIs⟩

/-! ## Equality -/

theorem encodeEquality_of_isValue (field : Field) (isValue : term.IsValue) :
    ∃ query, encodeEquality field term = .ok query := by
  cases term with
  | array members boost =>
      obtain ⟨encoded, membersEncoded⟩ := encodeMembers_of_isMember field isValue
      exact ⟨_, except_map_eq_ok_iff.mpr ⟨encoded, membersEncoded, rfl⟩⟩
  | phraseWildcard value boost =>
      have truncated := isRightTruncated_iff.mpr isValue
      exact ⟨_, if_pos truncated⟩
  | null | matchAll | string | phrase | wildcard | fuzzy | range => exact ⟨_, rfl⟩
  | regex | unparsedArray | proximity => cases isValue

theorem encodeEquality_of_not_isValue
    (notValue : ¬ term.IsValue)
    (single : ∀ members boost, term ≠ .array members boost) :
    encodeEquality field term = .error term.valueError := by
  cases term with
  | array members boost => exact absurd rfl (single members boost)
  | phraseWildcard value boost =>
      have untruncated : ¬ isRightTruncated value = true :=
        fun truncated => notValue (isRightTruncated_iff.mp truncated)
      exact if_neg untruncated
  | null | matchAll | string | phrase | wildcard | fuzzy | range => exact absurd trivial notValue
  | regex | unparsedArray | proximity => rfl

theorem encodeEquality_of_isMember (isMember : term.IsMember) :
    encodeEquality field term = encodeSingle field term := by
  cases term with
  | array => cases isMember
  | _ => rfl

/-- Encoded members: the strings, and the encodings of the others. -/
theorem encodeMembers_parts
    {members : List Term}
    {encoded : List (Text ⊕ Dsl)}
    (membersEncoded : encodeMembers field members = .ok encoded) :
    encoded.filterMap Sum.getLeft? = members.filterMap Term.plain? ∧
      List.Forall₂ (fun member clause => encodeEquality field member = .ok clause)
        (members.filter fun member => member.plain?.isNone)
        (encoded.filterMap Sum.getRight?) := by
  induction members generalizing encoded with
  | nil =>
      obtain rfl := Except.ok.inj membersEncoded
      exact ⟨rfl, .nil⟩
  | cons member rest inductionHypothesis =>
      obtain ⟨first, others, firstEncoded, othersEncoded, rfl⟩ :=
        encodeMembers_cons_eq_ok_iff.mp membersEncoded
      obtain ⟨strings, own⟩ := inductionHypothesis othersEncoded
      have clause :
          (encodeSingle field member).map (Sum.inr : Dsl → Text ⊕ Dsl) = .ok first →
            ∃ query, first = .inr query ∧ encodeSingle field member = .ok query := by
        intro restated
        obtain ⟨query, alone, rfl⟩ := except_map_eq_ok_iff.mp restated
        exact ⟨query, rfl, alone⟩
      cases member with
      | string value boost =>
          obtain rfl := Except.ok.inj firstEncoded
          exact ⟨congrArg (value :: ·) strings, own⟩
      | phrase | phraseWildcard | wildcard | fuzzy =>
          obtain ⟨query, rfl, alone⟩ := clause firstEncoded
          exact ⟨strings, .cons alone own⟩
      | null | matchAll | range | regex | array | unparsedArray | proximity => cases firstEncoded

theorem arrayQuery_eq_iff {clauses : List Dsl} {query : Dsl} :
    arrayQuery clauses = query ↔
      clauses = [query] ∨ clauses.length ≠ 1 ∧ query = .should clauses := by
  unfold arrayQuery
  split
  next clause => simp
  next several =>
    have notSingle : clauses.length ≠ 1 := by
      intro single
      obtain ⟨clause, rfl⟩ := List.length_eq_one_iff.mp single
      exact several clause rfl
    constructor
    · intro same
      exact .inr ⟨notSingle, same.symm⟩
    · rintro (rfl | ⟨-, rfl⟩)
      · exact absurd rfl notSingle
      · rfl

theorem IsChoice.unique
    {members : List Term}
    {query other : Dsl}
    (isChoice : IsChoice field members query)
    (otherIsChoice : IsChoice field members other) :
    query = other := by
  obtain ⟨own, clauses, encodings, strings, single⟩ := isChoice
  obtain ⟨otherOwn, otherClauses, otherEncodings, otherStrings, otherSingle⟩ := otherIsChoice
  have sameOwn : own = otherOwn :=
    List.right_unique_forall₂'
      (fun _ _ _ first second => Except.ok.inj (first.symm.trans second)) encodings otherEncodings
  subst sameOwn
  have sameClauses : clauses = otherClauses := by
    rcases strings with ⟨none, rfl⟩ | ⟨some, rfl⟩
    · rcases otherStrings with ⟨-, rfl⟩ | ⟨some, -⟩
      · rfl
      · exact absurd none some
    · rcases otherStrings with ⟨none, -⟩ | ⟨-, rfl⟩
      · exact absurd none some
      · rfl
  subst sameClauses
  rw [← arrayQuery_eq_iff.mpr single, ← arrayQuery_eq_iff.mpr otherSingle]

/-- An array is encoded just if all its members may stand there, and then as the
choice of them. -/
theorem encodeEquality_array_eq_ok_iff
    {members : List Term}
    {boost : Option Boost}
    {query : Dsl} :
    encodeEquality field (.array members boost) = .ok query ↔
      (∀ member ∈ members, member.IsMember) ∧ IsChoice field members query := by
  have choice :
      ∀ {encoded}, encodeMembers field members = .ok encoded →
        IsChoice field members (arrayQuery (arrayClauses field encoded)) := by
    intro encoded membersEncoded
    obtain ⟨strings, own⟩ := encodeMembers_parts membersEncoded
    refine ⟨_, arrayClauses field encoded, own, ?_, arrayQuery_eq_iff.mp rfl⟩
    unfold arrayClauses
    rw [strings]
    by_cases none : members.filterMap Term.plain? = []
    · exact .inl ⟨none, by simp [none]⟩
    · exact .inr ⟨none, by simp [none]⟩
  -- A choice is determined by its members, so that the encoding is the only one.
  constructor
  · intro arrayEncoded
    obtain ⟨encoded, membersEncoded, rfl⟩ := except_map_eq_ok_iff.mp arrayEncoded
    refine ⟨?_, choice membersEncoded⟩
    rcases all_isMember_or_first members with each | ⟨front, member, back, rfl, sound, notMember⟩
    · exact each
    · rw [encodeMembers_of_first sound notMember] at membersEncoded
      cases membersEncoded
  · rintro ⟨each, isChoice⟩
    obtain ⟨encoded, membersEncoded⟩ := encodeMembers_of_isMember field each
    exact except_map_eq_ok_iff.mpr
      ⟨encoded, membersEncoded, (choice membersEncoded).unique isChoice⟩

/-! ## Operators -/

theorem encode_of_isEquality (equates : operator.isEquality = true) :
    encode operator field term = encodeEquality field term := by
  cases operator with
  | contains | eq => rfl
  | _ => cases equates

theorem encode_of_isInequality (parts : operator.isInequality = true) :
    encode operator field term =
      (encodeEquality field term).map fun query => .mustNot [query] := by
  cases operator with
  | doesNotContain | ne => rfl
  | _ => cases parts

theorem encode_of_admits (field : Field) (admits : operator.Admits term) :
    ∃ query, encode operator field term = .ok query := by
  cases operator with
  | contains | eq => exact encodeEquality_of_isValue field admits
  | doesNotContain | ne =>
      obtain ⟨query, encoded⟩ := encodeEquality_of_isValue field admits
      exact ⟨_, except_map_eq_ok_iff.mpr ⟨query, encoded, rfl⟩⟩
  | regex | gt | gte | lt | lte =>
      obtain ⟨value, boost, rfl⟩ := admits
      exact ⟨_, rfl⟩
  | moreLikeThis | fuzzyLikeThis => cases admits

theorem encode_of_error
    {error : QueryError}
    (compares : operator.isEquality = true ∨ operator.isInequality = true)
    (failed : encodeEquality field term = .error error) :
    encode operator field term = .error error := by
  rcases compares with equates | parts
  · rw [encode_of_isEquality equates, failed]
  · rw [encode_of_isInequality parts, failed]
    rfl

theorem encode_of_rejects {error : QueryError} (rejects : operator.Rejects term error) :
    encode operator field term = .error error := by
  cases rejects with
  | mismatch selective notAdmitted =>
      cases operator with
      | regex =>
          rw [encode]
          unfold encodeRegex
          split
          next value boost => exact absurd ⟨value, boost, rfl⟩ notAdmitted
          next => rfl
      | gt | gte | lt | lte =>
          rw [encode]
          unfold encodeBound
          split
          next value boost => exact absurd ⟨value, boost, rfl⟩ notAdmitted
          next => rfl
      | _ => cases selective
  | similarity similar =>
      rcases similar with rfl | rfl
      · rfl
      · rfl
  | value compares notValue single =>
      exact encode_of_error compares (encodeEquality_of_not_isValue notValue single)
  | member compares sound notMember =>
      exact encode_of_error compares
        (except_map_eq_error_iff.mpr (encodeMembers_of_first sound notMember))

theorem exists_rejects_of_not_isValue
    (compares : operator.isEquality = true ∨ operator.isInequality = true)
    (notValue : ¬ term.IsValue) :
    ∃ error, operator.Rejects term error := by
  cases term with
  | array members boost =>
      rcases all_isMember_or_first members with each | ⟨front, member, back, rfl, sound, notMember⟩
      · exact absurd each notValue
      · exact ⟨_, .member compares sound notMember⟩
  | _ => exact ⟨_, .value compares notValue (by simp)⟩

theorem exists_rejects_of_not_admits (notAdmitted : ¬ operator.Admits term) :
    ∃ error, operator.Rejects term error := by
  cases operator with
  | contains | eq => exact exists_rejects_of_not_isValue (.inl rfl) notAdmitted
  | doesNotContain | ne => exact exists_rejects_of_not_isValue (.inr rfl) notAdmitted
  | regex | gt | gte | lt | lte => exact ⟨_, .mismatch rfl notAdmitted⟩
  | moreLikeThis => exact ⟨_, .similarity (.inl rfl)⟩
  | fuzzyLikeThis => exact ⟨_, .similarity (.inr rfl)⟩

theorem encode_eq_error_iff {error : QueryError} :
    encode operator field term = .error error ↔ operator.Rejects term error := by
  constructor
  · intro failed
    by_cases admits : operator.Admits term
    · obtain ⟨query, encoded⟩ := encode_of_admits field admits
      rw [failed] at encoded
      cases encoded
    · obtain ⟨found, rejects⟩ := exists_rejects_of_not_admits admits
      rw [encode_of_rejects rejects] at failed
      exact Except.error.inj failed ▸ rejects
  · exact encode_of_rejects

theorem encode_array_eq_ok_iff
    {members : List Term}
    {boost : Option Boost}
    {query : Dsl} :
    encode operator field (.array members boost) = .ok query ↔
      (∀ member ∈ members, member.IsMember) ∧
      ∃ choice, IsChoice field members choice ∧
        (operator.isEquality = true ∧ query = choice ∨
          operator.isInequality = true ∧ query = .mustNot [choice]) := by
  cases operator with
  | contains | eq =>
      rw [encode_of_isEquality rfl, encodeEquality_array_eq_ok_iff]
      simp [Operator.isEquality, Operator.isInequality]
  | doesNotContain | ne =>
      rw [encode_of_isInequality rfl, except_map_eq_ok_iff]
      simp only [encodeEquality_array_eq_ok_iff]
      simp [Operator.isEquality, Operator.isInequality, and_assoc, eq_comm]
  | regex | gt | gte | lt | lte | moreLikeThis | fuzzyLikeThis =>
      simp [encode, encodeRegex, encodeBound, Operator.isEquality, Operator.isInequality]

/-- A caller tells a mismatch from an unsupported construct, unless the term that
is named holds a distance that is too long to be written. -/
theorem kind_of_rejects {error : QueryError} (rejects : operator.Rejects term error) :
    error.kind =
      if error.isOverlong then .unwritable
      else if operator.isSelective then .mismatch else .unsupported := by
  unfold QueryError.kind
  congr 1
  have unsupported :
      operator.isEquality = true ∨ operator.isInequality = true → operator.isSelective = false := by
    intro compares
    cases operator with
    | contains | eq | doesNotContain | ne | moreLikeThis | fuzzyLikeThis => rfl
    | regex | gt | gte | lt | lte => rcases compares with impossible | impossible <;> cases impossible
  cases rejects with
  | mismatch selective => rw [if_pos selective]
  | similarity similar =>
      rcases similar with rfl | rfl
      · rfl
      · rfl
  | value compares =>
      rw [unsupported compares]
      cases term <;> rfl
  | @member front back member boost compares =>
      rw [unsupported compares]
      cases member <;> rfl

end Encoded

/-- Just the comparisons of the table are encoded, and each of the others has its
error: a mismatch for the operators that ask for one kind of terms, a construct
that is not supported for all others, in arrays named by the first member that
may not stand there. Only a distance that is too long to be written hides it. An
array is encoded as the choice of its members. -/
theorem encode_table (operator : Operator) (field : Field) (term : Term) :
    ((∃ query, encode operator field term = .ok query) ↔ operator.Admits term) ∧
    (∀ error, encode operator field term = .error error ↔ operator.Rejects term error) ∧
    (∀ error, operator.Rejects term error →
      error.kind =
        if error.isOverlong then .unwritable
        else if operator.isSelective then .mismatch else .unsupported) ∧
    ∀ members boost query,
      encode operator field (.array members boost) = .ok query ↔
        (∀ member ∈ members, member.IsMember) ∧
        ∃ choice, IsChoice field members choice ∧
          (operator.isEquality = true ∧ query = choice ∨
            operator.isInequality = true ∧ query = .mustNot [choice]) := by
  refine ⟨?_, ?_, fun error => kind_of_rejects, ?_⟩
  · constructor
    · rintro ⟨query, encoded⟩
      by_contra notAdmitted
      obtain ⟨error, rejects⟩ := exists_rejects_of_not_admits notAdmitted
      rw [encode_of_rejects rejects] at encoded
      cases encoded
    · exact encode_of_admits field
  · intro error
    exact encode_eq_error_iff
  · intro members boost query
    exact encode_array_eq_ok_iff

/-- A fuzzy text that is no pattern, and whose distance has too many digits to be
written. -/
def overlongPattern : Term :=
  .fuzzy "x" (Nat.pow 10 maxDigits) none

/-- Not every mismatch can be told: the fault of writing a distance that is too
long takes its place. -/
theorem encode_overlongPattern :
    Operator.isSelective .regex = true ∧
    ¬ Operator.Admits .regex overlongPattern ∧
    ∃ error,
      encode .regex ⟨"f"⟩ overlongPattern = .error error ∧
      error.kind = .unwritable ∧
      error.message = OverlongInteger.written.message := by
  have overlong : (QueryError.termMismatch .regex overlongPattern).isOverlong = true := by
    rw [QueryError.isOverlong, overlongPattern, Term.isOverlong]
    exact isOverlong_natCast_iff.mpr (Nat.le_refl _)
  refine ⟨rfl, ?_, _, rfl, if_pos overlong, QueryError.message_of_isOverlong overlong⟩
  rintro ⟨value, boost, same⟩
  cases same

end Dsl

end LinkedQuery
