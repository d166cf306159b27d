import LinkedQuery.Value
import LinkedQuery.Number.Decimal
import LinkedQuery.Number.Limit
import LinkedQuery.Text.Literal

/-!
Contract: how document values are named and shown in texts and messages.

Owns:
- the name of a value's type;
- the plain text of a value, and its literal inside a message;
- the order in which the members of a set are shown;
- which values are too long to be shown.

Does not own: the messages.
-/

namespace LinkedQuery

namespace Scalar

/-- The name of a scalar's type in messages. -/
def typeName : Scalar → Text
  | .null => "NoneType"
  | .bool _ => "bool"
  | .int _ => "int"
  | .float _ => "float"
  | .nan _ => "float"
  | .text _ => "str"
  | .date _ => "date"
  | .dateTime _ => "datetime"
  | .bytes _ => "bytes"

/-- A scalar as plain text; a text stands for itself. -/
def plain : Scalar → Text
  | .null => "None"
  | .bool true => "True"
  | .bool false => "False"
  | .int value => toString value
  | .float value => value.text
  | .nan _ => Double.nan.text
  | .text value => value
  | .date value => value.text
  | .dateTime value => value.text
  | .bytes value => Text.bytesLiteral value

/-- A scalar as a literal: texts are quoted, dates and times are spelt out. -/
def literal : Scalar → Text
  | .text value => Text.literal value
  | .date value => value.literal
  | .dateTime value => value.literal
  | other => other.plain

/-- Whether a scalar is an integer that is too long to be shown. -/
def isOverlong : Scalar → Bool
  | .int value => LinkedQuery.isOverlong value
  | _ => false

end Scalar

/-- The name of the type of containers of a shape. -/
def Shape.typeName : Shape → Text
  | .list => "list"
  | .map => "dict"
  | .pair => "tuple"

/-- How a literal marks a container inside itself. -/
def Shape.ellipsis : Shape → Text
  | .list => "[...]"
  | .map => "\x7b...\x7d"
  | .pair => "(...)"

namespace Value

/-- The name of a value's type in messages. -/
def typeName : Value → Text
  | .scalar value => value.typeName
  | .list _ => "list"
  | .map _ => "dict"
  | .set _ => "set"
  | .pair _ _ => "tuple"
  | .again shape => shape.typeName

/-- The whole number that an integer or a truth value counts as. -/
def wholeNumber? : Scalar → Option Int
  | .int value => some value
  | .bool value => some (if value then 1 else 0)
  | _ => none

/-- Put a scalar into a list in the order of whole numbers. -/
def insertMember (member : Scalar) : List Scalar → List Scalar
  | [] => [member]
  | other :: rest =>
      if (wholeNumber? member).getD 0 ≤ (wholeNumber? other).getD 0 then
        member :: other :: rest
      else
        other :: insertMember member rest

/-- The members of a set as they are shown.  A set leaves their order open: here whole
numbers come in increasing order, and other members in the order of the document. -/
def shownMembers (members : List Scalar) : List Scalar :=
  if members.all fun member => (wholeNumber? member).isSome then
    members.foldr insertMember []
  else
    members

mutual

/-- A value as a literal. -/
def literal : Value → Text
  | .scalar value => value.literal
  | .list items => "[" ++ itemLiterals true items ++ "]"
  | .map entries => "\x7b" ++ entryLiterals true entries ++ "\x7d"
  | .set [] => "set()"
  | .set members =>
      "\x7b" ++ Text.joinWith ", " ((shownMembers members).map Scalar.literal) ++ "\x7d"
  | .pair first second => "(" ++ literal first ++ ", " ++ literal second ++ ")"
  | .again shape => shape.ellipsis

/-- The literals of items, a comma before all but the first. -/
def itemLiterals (first : Bool) : List Value → Text
  | [] => ""
  | item :: rest =>
      (if first then "" else ", ") ++ literal item ++ itemLiterals false rest

/-- The literals of entries, a comma before all but the first. -/
def entryLiterals (first : Bool) : List (Scalar × Value) → Text
  | [] => ""
  | (key, value) :: rest =>
      (if first then "" else ", ") ++ key.literal ++ ": " ++ literal value ++
        entryLiterals false rest

end

/-- A value as plain text: a scalar by itself, anything else as a literal. -/
def plain : Value → Text
  | .scalar value => value.plain
  | other => other.literal

mutual

/-- Whether a value holds an integer that is too long to be shown. -/
def isOverlong : Value → Bool
  | .scalar value => value.isOverlong
  | .list items => anyItemOverlong items
  | .map entries => anyEntryOverlong entries
  | .set members => members.any Scalar.isOverlong
  | .pair first second => isOverlong first || isOverlong second
  | .again _ => false

/-- Whether one of some items holds an integer that is too long. -/
def anyItemOverlong : List Value → Bool
  | [] => false
  | item :: rest => isOverlong item || anyItemOverlong rest

/-- Whether one of some entries holds an integer that is too long. -/
def anyEntryOverlong : List (Scalar × Value) → Bool
  | [] => false
  | (key, value) :: rest => key.isOverlong || isOverlong value || anyEntryOverlong rest

end

end Value

end LinkedQuery
