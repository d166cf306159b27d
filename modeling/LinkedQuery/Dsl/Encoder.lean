import LinkedQuery.Dsl
import LinkedQuery.QueryError

/-!
Contract: comparisons encoded as compiled queries.

Owns:
- which operator admits which term, and the clause of each pair;
- the encoding of arrays: one clause for each member that is no plain string,
  and one clause for all strings;
- the default weight.

Does not own: the operators that never reach the encoder of a whole query.
-/

namespace LinkedQuery.Dsl

/-- The weight of a clause: one, unless the term carries its own. -/
def weight : Option Boost → Double
  | none => Double.one
  | some boost => boost.toDouble

/-- Whether the only wildcard of a text is one star at its end. -/
def isRightTruncated (value : Text) : Bool :=
  value.toList.getLast? == some '*' && value.toList.count (.char '*') == 1 &&
    !value.toList.contains '?'

/-- A text without its last character. -/
def withoutLast (value : Text) : Text :=
  Text.ofList value.toList.dropLast

/-- Equality of a field with a term other than an array. -/
def encodeSingle (field : Field) (term : Term) : Except QueryError Dsl :=
  match term with
  | .null => .ok (.mustNot [.leaf (.present field.name)])
  | .matchAll => .ok (.leaf (.present field.name))
  | .string value boost => .ok (.leaf (.term field.name value (weight boost)))
  | .phrase value boost => .ok (.leaf (.phrase field.name value (weight boost)))
  | .phraseWildcard value boost =>
      if isRightTruncated value then
        .ok (.leaf (.phrasePrefix field.name (withoutLast value) (weight boost)))
      else
        .error (.unsupportedPhrase term)
  | .wildcard value boost => .ok (.leaf (.wildcard field.name value (weight boost)))
  | .fuzzy value distance boost =>
      .ok (.leaf (.fuzzy field.name value distance (weight boost)))
  | .range start stop boost =>
      .ok (.leaf (.range field.name [(.gte, start), (.lte, stop)] (weight boost)))
  | .regex _ _ => .error (.unsupportedTerm term)
  | .array _ _ => .error (.unsupportedTerm term)
  | .unparsedArray _ _ => .error (.unsupportedTerm term)
  | .proximity _ _ => .error (.unsupportedTerm term)

/-- A member of an array: a plain string, or a clause of its own. -/
def encodeMember (field : Field) (term : Term) : Except QueryError (Text ⊕ Dsl) :=
  match term with
  | .string value _ => .ok (.inl value)
  | .phrase _ _ => (encodeSingle field term).map .inr
  | .phraseWildcard _ _ => (encodeSingle field term).map .inr
  | .wildcard _ _ => (encodeSingle field term).map .inr
  | .fuzzy _ _ _ => (encodeSingle field term).map .inr
  | _ => .error (.unsupportedMember term)

/-- The members of an array in order, up to the first that is not supported. -/
def encodeMembers (field : Field) : List Term → Except QueryError (List (Text ⊕ Dsl))
  | [] => .ok []
  | term :: rest => do
      let member ← encodeMember field term
      let members ← encodeMembers field rest
      return member :: members

/-- The clauses of encoded members: their own ones in order, then one for all
strings if there are any. -/
def arrayClauses (field : Field) (members : List (Text ⊕ Dsl)) : List Dsl :=
  let strings := members.filterMap Sum.getLeft?
  members.filterMap Sum.getRight? ++
    (if strings.isEmpty then [] else [.leaf (.terms field.name strings)])

/-- The query of an array's clauses: a single clause stands alone. -/
def arrayQuery : List Dsl → Dsl
  | [clause] => clause
  | clauses => .should clauses

/-- Equality of a field with a term. -/
def encodeEquality (field : Field) (term : Term) : Except QueryError Dsl :=
  match term with
  | .array members _ =>
      (encodeMembers field members).map fun members => arrayQuery (arrayClauses field members)
  | other => encodeSingle field other

/-- A regular expression on a field. -/
def encodeRegex (field : Field) (term : Term) : Except QueryError Dsl :=
  match term with
  | .regex value boost => .ok (.leaf (.regex field.name value (weight boost)))
  | _ => .error (.termMismatch .regex term)

/-- A bound on a field. -/
def encodeBound (bound : Bound) (operator : Operator) (field : Field) (term : Term) :
    Except QueryError Dsl :=
  match term with
  | .string value boost =>
      .ok (.leaf (.range field.name [(bound, value)] (weight boost)))
  | _ => .error (.termMismatch operator term)

/-- A comparison of a field with a term. -/
def encode (operator : Operator) (field : Field) (term : Term) : Except QueryError Dsl :=
  match operator with
  | .contains => encodeEquality field term
  | .eq => encodeEquality field term
  | .doesNotContain => (encodeEquality field term).map fun query => .mustNot [query]
  | .ne => (encodeEquality field term).map fun query => .mustNot [query]
  | .regex => encodeRegex field term
  | .gt => encodeBound .gt operator field term
  | .gte => encodeBound .gte operator field term
  | .lt => encodeBound .lt operator field term
  | .lte => encodeBound .lte operator field term
  | .moreLikeThis => .error (.unsupportedOperator operator)
  | .fuzzyLikeThis => .error (.unsupportedOperator operator)

end LinkedQuery.Dsl
