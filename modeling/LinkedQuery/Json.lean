import LinkedQuery.Number.Double
import LinkedQuery.Text

/-!
Contract: JSON data in which order and the kind of a number matter.

Owns:
- the data type: integers of any size apart from binary64 numbers, and objects
  as lists of fields in order;
- writing into and reading from an object.

Does not own: the text form.
-/

namespace LinkedQuery

/-- A JSON value; the fields of an object keep their order. -/
inductive Json
  | null
  | bool (value : Bool)
  | int (value : Int)
  | float (value : Double)
  | string (value : Text)
  | array (items : List Json)
  | object (fields : List (Text × Json))
deriving Repr, Inhabited

namespace Json

/-- The fields after a write: a key that is there keeps its place and takes
the new value, another key goes to the end. -/
def put (fields : List (Text × Json)) (key : Text) (value : Json) :
    List (Text × Json) :=
  match fields with
  | [] => [(key, value)]
  | (other, old) :: rest =>
      if other = key then
        (other, value) :: rest
      else
        (other, old) :: put rest key value

/-- An optional text, absence being null. -/
def ofText? : Option Text → Json
  | some text => .string text
  | none => .null

/-- The value of a field of an object. -/
def field? (key : Text) : Json → Option Json
  | .object fields => fields.findSome? fun (other, value) =>
      if other = key then some value else none
  | _ => none

end Json

end LinkedQuery
