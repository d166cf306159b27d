import LinkedQuery.Number.Double
import LinkedQuery.Text
import LinkedQuery.Value.Calendar

/-!
Contract: the data of a document: scalars, lists, mappings, sets and pairs.

Owns:
- the data type, a mapping being a list of entries in order whose keys are
  scalars;
- the mark for a container inside itself, where data that has no end is cut;
- which keys are the same: numbers and truth values by their numeric value,
  date-times by their instant, and a NaN only as itself;
- look-up and writing in a mapping.

Does not own: the text from which documents are read.
-/

namespace LinkedQuery

/-- A document value without parts.  Of the NaNs of a document, those of one
label are one value. -/
inductive Scalar
  | null
  | bool (value : Bool)
  | int (value : Int)
  | float (value : Double)
  | nan (label : Nat)
  | text (value : Text)
  | date (value : Date)
  | dateTime (value : DateTime)
  | bytes (value : List UInt8)
deriving Repr, DecidableEq, Inhabited

/-- What a mapping compares when it looks for a key. -/
inductive Key
  | null
  | integer (value : Int)
  | other (value : Double)
  | nan (label : Nat)
  | text (value : Text)
  | date (value : Date)
  | instant (zoned : Bool) (microseconds : Int)
  | bytes (value : List UInt8)
deriving Repr, DecidableEq

namespace Scalar

/-- The scalar of a floating-point number, with a label in case it is a
NaN. -/
def ofDouble (label : Nat) : Double → Scalar
  | .nan => .nan label
  | value => .float value

/-- The floating-point number that a scalar is. -/
def double? : Scalar → Option Double
  | .float value => some value
  | .nan _ => some .nan
  | _ => none

/-- The key of a scalar: truth values count as one and zero, and a whole
floating-point number as that integer. -/
def key : Scalar → Key
  | .null => .null
  | .bool value => .integer (if value then 1 else 0)
  | .int value => .integer value
  | .float value =>
      match value.toInt? with
      | some whole => .integer whole
      | none => .other value
  | .nan label => .nan label
  | .text value => .text value
  | .date value => .date value
  | .dateTime value => .instant value.offset.isSome value.instant
  | .bytes value => .bytes value

end Scalar

/-- The shapes of containers that can stand inside themselves. -/
inductive Shape
  | list
  | map
  | pair
deriving Repr, DecidableEq

/-- A document value.  `again` stands for a container of some shape inside
itself, where its content is not repeated any more. -/
inductive Value
  | scalar (value : Scalar)
  | list (items : List Value)
  | map (entries : List (Scalar × Value))
  | set (members : List Scalar)
  | pair (first second : Value)
  | again (shape : Shape)
deriving Repr, Inhabited

/-- The entries of a mapping in order. -/
abbrev Entries := List (Scalar × Value)

namespace Entries

/-- The value under a key. -/
def find? (key : Key) : Entries → Option Value
  | [] => none
  | (other, value) :: rest =>
      if other.key = key then
        some value
      else
        find? key rest

/-- The value under a text. -/
def get? (name : Text) (entries : Entries) : Option Value :=
  find? (.text name) entries

/-- The entries after a write: a key that is there keeps its place and its
spelling and takes the new value, another key goes to the end. -/
def put (key : Scalar) (value : Value) : Entries → Entries
  | [] => [(key, value)]
  | (other, old) :: rest =>
      if other.key = key.key then
        (other, value) :: rest
      else
        (other, old) :: put key value rest

/-- A value found in a mapping is smaller than the mapping. -/
theorem sizeOf_lt_of_find?
    {key : Key}
    {entries : Entries}
    {value : Value}
    (found : find? key entries = some value) :
    sizeOf value < sizeOf entries := by
  induction entries with
  | nil => simp [find?] at found
  | cons entry rest inductionHypothesis =>
      obtain ⟨other, old⟩ := entry
      simp only [find?] at found
      split at found
      · cases found
        simp only [List.cons.sizeOf_spec, Prod.mk.sizeOf_spec]
        omega
      · have smaller := inductionHypothesis found
        simp only [List.cons.sizeOf_spec]
        omega

/-- A value found under a text is smaller than the mapping. -/
theorem sizeOf_lt_of_get?
    {name : Text}
    {entries : Entries}
    {value : Value}
    (found : get? name entries = some value) :
    sizeOf value < sizeOf entries :=
  sizeOf_lt_of_find? found

end Entries

end LinkedQuery
