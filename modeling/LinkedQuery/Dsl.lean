import LinkedQuery.Json

/-!
Contract: compiled queries of the search backend.

Owns:
- the leaf clauses on one field and the clauses that combine queries;
- their JSON form.

Does not own: the expressions they come from.
-/

namespace LinkedQuery

/-- A bound of a range. -/
inductive Bound
  | gt
  | gte
  | lt
  | lte
deriving Repr, DecidableEq

/-- The key of a bound. -/
def Bound.key : Bound → Text
  | .gt => "gt"
  | .gte => "gte"
  | .lt => "lt"
  | .lte => "lte"

/-- A clause on one field. -/
inductive Leaf
  | present (field : Text)
  | term (field value : Text) (boost : Double)
  | terms (field : Text) (values : List Text)
  | phrase (field query : Text) (boost : Double)
  | phrasePrefix (field query : Text) (boost : Double)
  | wildcard (field value : Text) (boost : Double)
  | fuzzy (field value : Text) (prefixLength : Nat) (boost : Double)
  | range (field : Text) (bounds : List (Bound × Text)) (boost : Double)
  | regex (field value : Text) (boost : Double)
deriving Repr, DecidableEq

namespace Leaf

/-- The field that a clause is on. -/
def field : Leaf → Text
  | .present field => field
  | .term field _ _ => field
  | .terms field _ => field
  | .phrase field _ _ => field
  | .phrasePrefix field _ _ => field
  | .wildcard field _ _ => field
  | .fuzzy field _ _ _ => field
  | .range field _ _ => field
  | .regex field _ _ => field

/-- An object of one field. -/
def single (key : Text) (value : Json) : Json :=
  .object [(key, value)]

/-- The JSON form of a clause. -/
def toJson : Leaf → Json
  | .present field => single "exists" (single "field" (.string field))
  | .term field value boost =>
      single "term" (single field (.object [("value", .string value), ("boost", .float boost)]))
  | .terms field values => single "terms" (single field (.array (values.map Json.string)))
  | .phrase field query boost =>
      single "match_phrase"
        (single field (.object [("query", .string query), ("boost", .float boost)]))
  | .phrasePrefix field query boost =>
      single "match_phrase_prefix"
        (single field (.object [("query", .string query), ("boost", .float boost)]))
  | .wildcard field value boost =>
      single "wildcard"
        (single field (.object [("value", .string value), ("boost", .float boost)]))
  | .fuzzy field value prefixLength boost =>
      single "fuzzy"
        (single field
          (.object
            [("value", .string value), ("prefix_length", .int prefixLength),
             ("boost", .float boost)]))
  | .range field bounds boost =>
      single "range"
        (single field
          (.object
            (bounds.map (fun (bound, value) => (bound.key, Json.string value)) ++
              [(("boost" : Text), Json.float boost)])))
  | .regex field value boost =>
      single "regex"
        (single field (.object [("value", .string value), ("boost", .float boost)]))

end Leaf

/-- A compiled query. -/
inductive Dsl
  /-- A clause on one field. -/
  | leaf (clause : Leaf)
  /-- All queries hold. -/
  | must (queries : List Dsl)
  /-- Some query holds. -/
  | should (queries : List Dsl)
  /-- No query holds. -/
  | mustNot (queries : List Dsl)
  /-- The query holds and the filter clause lets the document pass. -/
  | filtered (query : Dsl) (clause : Json)
  /-- Some nested document under the path satisfies the query. -/
  | nested (path : Text) (query : Dsl)
  /-- Some joined document satisfies the query. -/
  | subselect (index type : Text) (left right : Option Text) (query : Dsl)
  /-- A query given as JSON and taken as it stands. -/
  | raw (json : Json)

namespace Dsl

/-- A combination of queries by its fields. -/
def boolean (fields : List (Text × Json)) : Json :=
  .object [("bool", .object fields)]

mutual

/-- The JSON form of a query. -/
def toJson : Dsl → Json
  | .leaf clause => clause.toJson
  | .must queries => boolean [("must", .array (toJsons queries))]
  | .should queries => boolean [("should", .array (toJsons queries))]
  | .mustNot queries => boolean [("must_not", .array (toJsons queries))]
  | .filtered query clause =>
      boolean [("must", .array [toJson query]), ("filter", .array [clause])]
  | .nested path query =>
      .object [("nested", .object [("path", .string path), ("query", toJson query)])]
  | .subselect index type left right query =>
      .object
        [("subselect",
          .object
            [("index", .string index), ("type", .string type),
             ("left_fieldname", Json.ofText? left), ("right_fieldname", Json.ofText? right),
             ("query", toJson query)])]
  | .raw json => json

/-- The JSON forms of queries. -/
def toJsons : List Dsl → List Json
  | [] => []
  | query :: rest => toJson query :: toJsons rest

end

end Dsl

end LinkedQuery
