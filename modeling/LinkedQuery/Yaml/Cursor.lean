import LinkedQuery.Yaml.Character

/-!
Contract: a position in YAML text.

Owns:
- the text that is left, with the index, the line and the column of its first
  character;
- moving on, a byte order mark taking no column.

Does not own: what the characters mean.
-/

namespace LinkedQuery.Yaml

/-- The text that is left and where it starts. -/
structure Cursor where
  rest : List Char
  index : Nat
  line : Nat
  column : Nat
deriving Repr

namespace Cursor

/-- The start of a text. -/
def ofText (chars : List Char) : Cursor :=
  ⟨chars, 0, 0, 0⟩

/-- The position after one more character. -/
def next (cursor : Cursor) : Cursor :=
  match cursor.rest with
  | [] => cursor
  | char :: rest =>
      if isBreak char then
        ⟨rest, cursor.index + 1, cursor.line + 1, 0⟩
      else if char = '\ufeff' then
        ⟨rest, cursor.index + 1, cursor.line, cursor.column⟩
      else
        ⟨rest, cursor.index + 1, cursor.line, cursor.column + 1⟩

/-- The position so many characters further on. -/
def advance (cursor : Cursor) : Nat → Cursor
  | 0 => cursor
  | count + 1 => cursor.next.advance count

/-- The position at which a given remainder of the text starts. -/
def moveTo (cursor : Cursor) (rest : List Char) : Cursor :=
  cursor.advance (cursor.rest.length - rest.length)

end Cursor

end LinkedQuery.Yaml
