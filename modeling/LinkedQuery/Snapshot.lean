import LinkedQuery.Json

/-!
Contract: the transaction snapshot that decides which rows a join may see.

Owns:
- the snapshot, whose lower bound does not exceed the upper one;
- the filter clause that hands the snapshot to the backend.

Does not own: the rule by which the backend judges a row.
-/

namespace LinkedQuery

/-- The snapshot of a reading transaction. -/
structure Snapshot where
  reader : Int
  lower : Int
  upper : Int
  command : Int
  active : List Int
  ordered : lower ≤ upper

/-- Bounds in the wrong order. -/
structure UnorderedBounds where
  lower : Int
  upper : Int
deriving Repr, DecidableEq

/-- The wording for bounds in the wrong order. -/
def UnorderedBounds.message (fault : UnorderedBounds) : Text :=
  "snapshot xmin (" ++ toString fault.lower ++ ") must not exceed xmax (" ++
    toString fault.upper ++ ")"

namespace Snapshot

/-- A snapshot, if its bounds are in order. -/
def ofParts (reader lower upper command : Int) (active : List Int) :
    Except UnorderedBounds Snapshot :=
  if ordered : lower ≤ upper then
    .ok ⟨reader, lower, upper, command, active, ordered⟩
  else
    .error ⟨lower, upper⟩

/-- The field in which the backend keeps aborted transactions. -/
def abortedField : Text := "aborted_xids"

/-- Put a number into a sorted list. -/
def insertSorted (value : Int) : List Int → List Int
  | [] => [value]
  | other :: rest =>
      if value ≤ other then
        value :: other :: rest
      else
        other :: insertSorted value rest

/-- The running transactions in increasing order. -/
def sortedActive (snapshot : Snapshot) : List Int :=
  snapshot.active.foldr insertSorted []

/-- The filter clause for the documents of one type in one index. -/
def clause (snapshot : Snapshot) (index type : Text) : Json :=
  .object
    [("visibility",
      .object
        [("myxid", .int snapshot.reader), ("xmin", .int snapshot.lower),
         ("xmax", .int snapshot.upper), ("commandid", .int snapshot.command),
         ("active_xids", .array (snapshot.sortedActive.map Json.int)),
         ("index", .string index), ("type", .string type),
         ("field", .string abortedField), ("id", .string abortedField)])]

end Snapshot

end LinkedQuery
