import LinkedQuery.Text.Blank
import LinkedQuery.Text.Literal

/-!
Contract: the identity of an indexed entity.

Owns:
- the three parts of a qualified name;
- the text form, parts joined by dots, and its reader.

Does not own: what an entity's index is called on the search backend.
-/

namespace LinkedQuery

/-- An indexed entity: a table with an optional schema and an optional index
name. -/
structure Entity where
  schema : Option Text
  table : Text
  index : Option Text
deriving Repr, DecidableEq

/-- A text that is no qualified name. -/
structure MalformedEntity where
  text : Text
deriving Repr, DecidableEq

/-- The wording for a text that is no qualified name. -/
def MalformedEntity.message (fault : MalformedEntity) : Text :=
  "Invalid qualified index: " ++ Text.literal fault.text

namespace Entity

/-- The parts that have a text. -/
def parts (entity : Entity) : List Text :=
  [entity.schema, some entity.table, entity.index].filterMap fun part =>
    part.filter fun text => !text.isEmpty

/-- The parts joined by dots. -/
def text (entity : Entity) : Text :=
  Text.joinWith "." entity.parts

/-- The entity of one to three parts. -/
def ofParts? : List (List CodePoint) → Option Entity
  | [table] => some ⟨none, Text.ofList table, none⟩
  | [schema, table] => some ⟨some (Text.ofList schema), Text.ofList table, none⟩
  | [schema, table, index] =>
      some ⟨some (Text.ofList schema), Text.ofList table, some (Text.ofList index)⟩
  | _ => none

/-- Read a qualified name: one to three parts between dots, none of them
blank. -/
def read? (codes : List CodePoint) : Option Entity :=
  let parts := (Text.pieces '.' (Text.trim codes)).map Text.trim
  if parts.any List.isEmpty then
    none
  else
    ofParts? parts

/-- Read a qualified name, or report the text. -/
def parse (text : Text) : Except MalformedEntity Entity :=
  match read? text.toList with
  | some entity => .ok entity
  | none => .error ⟨text⟩

end Entity

end LinkedQuery
