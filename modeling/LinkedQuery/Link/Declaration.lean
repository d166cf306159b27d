import LinkedQuery.Link
import LinkedQuery.Text.Word

/-!
Contract: link declarations such as `name:(left=<entity>right)`.

Owns:
- the grammar: an optional name, optional parentheses, white space between any
  two parts;
- the reader and its two faults.

Does not own: the text that links print as.
-/

namespace LinkedQuery

/-- Why a text is no link declaration. -/
inductive LinkFault
  | malformed (text : Text)
  | entity (fault : MalformedEntity)
deriving Repr, DecidableEq

/-- The wording of a fault. -/
def LinkFault.message : LinkFault → Text
  | .malformed text => "Invalid index link declaration: " ++ Text.literal text
  | .entity fault => fault.message

namespace Link

/-- The characters of a link's name. -/
def isNameChar (code : CodePoint) : Bool :=
  Text.isWord code || code == '$'

/-- The characters of join fields and of the entity. -/
def isPathChar (code : CodePoint) : Bool :=
  Text.isWord code || code == '$' || code == '.'

/-- Split off a non-empty run of characters of a class. -/
def run? (admits : CodePoint → Bool) (codes : List CodePoint) : Option (List CodePoint × List CodePoint) :=
  match codes.takeWhile admits with
  | [] => none
  | found => some (found, codes.dropWhile admits)

/-- Drop one given character at the front. -/
def expect? (wanted : CodePoint) : List CodePoint → Option (List CodePoint)
  | code :: rest => if code = wanted then some rest else none
  | [] => none

/-- Drop one given character at the front if it is there. -/
def skip (wanted : CodePoint) (codes : List CodePoint) : List CodePoint :=
  (expect? wanted codes).getD codes

/-- Split off a name with the colon after it, if both are there. -/
def splitName (codes : List CodePoint) : Option (List CodePoint) × List CodePoint :=
  let found := do
    let (name, rest) ← run? isNameChar codes
    let rest ← expect? ':' (Text.trimStart rest)
    return (some name, Text.trimStart rest)
  found.getD (none, codes)

/-- The texts of a declaration's parts. -/
structure Parts where
  name : Option (List CodePoint)
  left : List CodePoint
  entity : List CodePoint
  right : List CodePoint
deriving Repr, DecidableEq

/-- Read the parts of a declaration. -/
def readParts? (codes : List CodePoint) : Option Parts := do
  let (name, rest) := splitName (Text.trimStart codes)
  let (left, rest) ← run? isPathChar (Text.trimStart (skip '(' rest))
  let rest ← expect? '=' (Text.trimStart rest)
  let rest ← expect? '<' (Text.trimStart rest)
  let (entity, rest) ← run? isPathChar (Text.trimStart rest)
  let rest ← expect? '>' (Text.trimStart rest)
  let (right, rest) ← run? isPathChar (Text.trimStart rest)
  if (Text.trimStart (skip ')' (Text.trimStart rest))).isEmpty then
    return ⟨name, left, entity, right⟩
  else
    none

/-- Read a declaration, or say what is wrong with it. -/
def parse (text : Text) : Except LinkFault Link :=
  match readParts? text.toList with
  | none => .error (.malformed text)
  | some parts =>
      match Entity.parse (Text.ofList parts.entity) with
      | .error fault => .error (.entity fault)
      | .ok entity =>
          .ok ⟨parts.name.map Text.ofList, some (Text.ofList parts.left), entity,
            some (Text.ofList parts.right)⟩

end Link

end LinkedQuery
