import LinkedQuery.Json
import LinkedQuery.Number.Decimal
import LinkedQuery.Number.Limit
import LinkedQuery.Text.Literal

/-!
Contract: JSON text with an indent of two.

Owns:
- the layout: one item or field a line, empty containers closed at once;
- the escapes: quotes, backslashes and control characters only, all other
  characters as they are;
- the refusal to write integers that are too long.

Does not own: the order of fields, which is that of the data.
-/

namespace LinkedQuery.Json

/-- One code point of a string. -/
def codeText (code : CodePoint) : List CodePoint :=
  if code = '"' then
    ['\\', '"']
  else if code = '\\' then
    ['\\', '\\']
  else if code = '\n' then
    ['\\', 'n']
  else if code = '\r' then
    ['\\', 'r']
  else if code = '\t' then
    ['\\', 't']
  else if code = '\x08' then
    ['\\', 'b']
  else if code = '\x0c' then
    ['\\', 'f']
  else if code.toNat < 0x20 then
    ('\\' :: 'u' :: Text.hexDigits 4 code.toNat).map CodePoint.char
  else
    [code]

/-- A string between quotes. -/
def stringText (codes : List CodePoint) : List CodePoint :=
  '"' :: (codes.flatMap codeText ++ [.char '"'])

/-- An integer with all its digits. -/
def intText (value : Int) : List Char :=
  if value < 0 then
    '-' :: Nat.toDigits 10 value.natAbs
  else
    Nat.toDigits 10 value.natAbs

/-- A number; the values that JSON does not know are written as words. -/
def floatText (value : Double) : List Char :=
  match value with
  | .nan => ['N', 'a', 'N']
  | .infinite false => ['I', 'n', 'f', 'i', 'n', 'i', 't', 'y']
  | .infinite true => ['-', 'I', 'n', 'f', 'i', 'n', 'i', 't', 'y']
  | .finite _ _ => value.chars

/-- The start of a line at some depth. -/
def lineStart (depth : Nat) : List CodePoint :=
  '\n' :: List.replicate (2 * depth) (.char ' ')

mutual

/-- The text of a value that stands at some depth. -/
def write (depth : Nat) : Json → List CodePoint
  | .null => ['n', 'u', 'l', 'l']
  | .bool true => ['t', 'r', 'u', 'e']
  | .bool false => ['f', 'a', 'l', 's', 'e']
  | .int value => (intText value).map CodePoint.char
  | .float value => (floatText value).map CodePoint.char
  | .string value => stringText value.toList
  | .array items =>
      '[' :: (writeItems (depth + 1) true items ++
        (if items.isEmpty then [] else lineStart depth) ++ [.char ']'])
  | .object fields =>
      '{' :: (writeFields (depth + 1) true fields ++
        (if fields.isEmpty then [] else lineStart depth) ++ [.char '}'])

/-- The text of items that stand at some depth; a comma goes before all but
the first. -/
def writeItems (depth : Nat) (first : Bool) : List Json → List CodePoint
  | [] => []
  | item :: rest =>
      (if first then [] else [.char ',']) ++ lineStart depth ++ write depth item ++
        writeItems depth false rest

/-- The text of fields that stand at some depth. -/
def writeFields (depth : Nat) (first : Bool) : List (Text × Json) → List CodePoint
  | [] => []
  | (key, value) :: rest =>
      (if first then [] else [.char ',']) ++ lineStart depth ++ stringText key.toList ++
        [.char ':', .char ' '] ++ write depth value ++ writeFields depth false rest

end

/-- The text of a value. -/
def text (value : Json) : Text :=
  .ofList (write 0 value)

mutual

/-- Whether a value holds an integer that is too long to be written. -/
def isOverlong : Json → Bool
  | .int value => LinkedQuery.isOverlong value
  | .array items => anyOverlong items
  | .object fields => anyFieldOverlong fields
  | _ => false

/-- Whether one of some values holds an integer that is too long. -/
def anyOverlong : List Json → Bool
  | [] => false
  | item :: rest => isOverlong item || anyOverlong rest

/-- Whether one of some fields holds an integer that is too long. -/
def anyFieldOverlong : List (Text × Json) → Bool
  | [] => false
  | (_, value) :: rest => isOverlong value || anyFieldOverlong rest

end

/-- The text of a value, if all of it can be written. -/
def written (value : Json) : Except OverlongInteger Text :=
  if value.isOverlong then .error .written else .ok value.text

end LinkedQuery.Json
