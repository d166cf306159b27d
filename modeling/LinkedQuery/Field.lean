import LinkedQuery.Text

/-!
Contract: fields of an entity.

Owns:
- the field name and the nested path that its dots spell.

Does not own: which entity a field belongs to.
-/

namespace LinkedQuery

/-- A field by its name on the search backend. -/
structure Field where
  name : Text
deriving Repr, DecidableEq

namespace Field

/-- The code points before the last dot, if there is a dot. -/
def pathCodes? (codes : List CodePoint) : Option (List CodePoint) :=
  match codes.reverse.dropWhile (· != .char '.') with
  | [] => none
  | _ :: path => some path.reverse

/-- The nested path: the text before the last dot, or none for a field of the
document itself. -/
def nestedPath (field : Field) : Option Text :=
  (pathCodes? field.name.toList).map Text.ofList

end Field

end LinkedQuery
