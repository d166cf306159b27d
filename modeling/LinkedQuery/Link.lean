import LinkedQuery.Entity

/-!
Contract: joins from a source entity to another.

Owns:
- the link with its optional name and join fields;
- the self link of an entity, which has neither field;
- the text form.

Does not own: the reader of declarations.
-/

namespace LinkedQuery

/-- A join to `entity`: `left` is a field of the source, `right` one of the
target. -/
structure Link where
  name : Option Text
  left : Option Text
  entity : Entity
  right : Option Text
deriving Repr, DecidableEq

namespace Link

/-- The link that stands for an entity itself. -/
def toSelf (entity : Entity) : Link :=
  ⟨none, none, entity, none⟩

@[simp] theorem entity_toSelf (entity : Entity) : (toSelf entity).entity = entity := rfl

/-- Whether a link joins nothing. -/
def isSelf (link : Link) : Bool :=
  link.left.isNone && link.right.isNone

private def fieldText (field : Option Text) : Text :=
  field.getD "None"

/-- The text of a link. -/
def text (link : Link) : Text :=
  if link.isSelf then
    "<" ++ link.entity.text ++ ">"
  else
    let body := fieldText link.left ++ "=<" ++ link.entity.text ++ ">" ++ fieldText link.right
    match link.name with
    | some name => if name.isEmpty then body else name ++ ":(" ++ body ++ ")"
    | none => body

end Link

end LinkedQuery
