import LinkedQuery.Yaml.Character
import LinkedQuery.Yaml.Fault

/-!
Contract: block scalars of YAML text.

Owns:
- the header: what happens to the line breaks at the end, and the indentation;
- the lines, kept or folded.

Does not own: the indentation of the collection around the scalar.
-/

namespace LinkedQuery.Yaml

/-- What happens to the line breaks at the end. -/
inductive Chomping
  /-- All are dropped. -/
  | strip
  /-- One stays. -/
  | clip
  /-- All stay. -/
  | keep
deriving Repr, DecidableEq

/-- The header of a block scalar: the increment of the indentation is found
from the text where it is not given. -/
structure BlockHeader where
  chomping : Chomping
  increment : Option Nat
deriving Repr, DecidableEq

/-- The chomping that a character asks for. -/
def chomping? : Char → Option Chomping
  | '+' => some .keep
  | '-' => some .strip
  | _ => none

/-- The increment that a character gives; zero is none. -/
def increment? (char : Char) : Option Nat :=
  if char.isDigit && char ≠ '0' then some (char.toNat - '0'.toNat) else none

/-- The header and the text after its line. -/
def blockHeader (chars : List Char) : Except Fault (BlockHeader × List Char) :=
  let (header, chars) : BlockHeader × List Char :=
    match chars with
    | [] => (⟨.clip, none⟩, [])
    | first :: rest =>
        match chomping? first, increment? first with
        | some chomping, _ =>
            match rest.head?.bind increment? with
            | some increment => (⟨chomping, some increment⟩, rest.drop 1)
            | none => (⟨chomping, none⟩, rest)
        | none, some increment =>
            match rest.head?.bind chomping? with
            | some chomping => (⟨chomping, some increment⟩, rest.drop 1)
            | none => (⟨.clip, some increment⟩, rest)
        | none, none => (⟨.clip, none⟩, chars)
  if atGap chars then
    match restOfLine? chars with
    | some rest => .ok (header, rest)
    | none => .error .malformed
  else
    .error .malformed

/-- Empty lines at the start: their breaks, the greatest column that spaces
reach, the column of the first other character, and the text from there on. -/
def leadingLines (column : Nat) : List Char → List Char × Nat × Nat × List Char
  | [] => ([], column, column, [])
  | char :: rest =>
      if char == ' ' then
        leadingLines (column + 1) rest
      else if isBreak char then
        let (breaks, greatest, last, after) := leadingLines 0 rest
        (breakText char :: breaks, max column greatest, last, after)
      else
        ([], column, column, char :: rest)

/-- Empty lines between lines of a known indentation: their breaks, the column
reached and the text from there on. -/
def emptyLines (indent column : Nat) : List Char → List Char × Nat × List Char
  | [] => ([], column, [])
  | char :: rest =>
      if char == ' ' then
        if column < indent then emptyLines indent (column + 1) rest else ([], column, char :: rest)
      else if isBreak char then
        let (breaks, last, after) := emptyLines indent 0 rest
        (breakText char :: breaks, last, after)
      else
        ([], column, char :: rest)

/-- Whether a line starts with a blank. -/
def startsBlank : List Char → Bool
  | [] => false
  | char :: _ => char == ' ' || char == '\t'

/-- The lines of a block scalar. -/
structure BlockLines where
  text : List Char
  /-- The break of the last line. -/
  lastBreak : List Char
  /-- The breaks of the empty lines after it. -/
  emptyBreaks : List Char
  rest : List Char

/-- The lines from one on that is known to be indented, with the breaks before
it.  Each step takes a line, and the number of steps is bounded. -/
def blockLines (isFolded : Bool) (indent : Nat) :
    Nat → List Char → List Char → BlockLines
  | 0, breaks, chars => ⟨[], [], breaks, chars⟩
  | steps + 1, breaks, chars =>
      let line := chars.takeWhile fun char => !isBreak char
      let after := chars.dropWhile fun char => !isBreak char
      let lastBreak := (after.take 1).map breakText
      let (further, column, rest) := emptyLines indent 0 (after.drop 1)
      if column = indent && !rest.isEmpty then
        let joint :=
          if isFolded && lastBreak = ['\n'] && !startsBlank chars && !startsBlank rest then
            if further.isEmpty then [' '] else []
          else
            lastBreak
        let more := blockLines isFolded indent steps further rest
        ⟨breaks ++ line ++ joint ++ more.text, more.lastBreak, more.emptyBreaks, more.rest⟩
      else
        ⟨breaks ++ line, lastBreak, further, rest⟩

/-- The line breaks that stay at the end. -/
def Chomping.tail (chomping : Chomping) (lines : BlockLines) : List Char :=
  match chomping with
  | .strip => []
  | .clip => lines.lastBreak
  | .keep => lines.lastBreak ++ lines.emptyBreaks

/-- A block scalar from the character after its indicator on; the lines are
indented more than the collection around them. -/
def blockScalar (isFolded : Bool) (parent : Int) (chars : List Char) :
    Except Fault (Text × List Char) := do
  let (header, chars) ← blockHeader chars
  let least := (max (parent + 1) 1).toNat
  let (indent, breaks, column, rest) :=
    match header.increment with
    | none =>
        let (breaks, greatest, column, rest) := leadingLines 0 chars
        (max least greatest, breaks, column, rest)
    | some increment =>
        let indent := least + increment - 1
        let (breaks, column, rest) := emptyLines indent 0 chars
        (indent, breaks, column, rest)
  let lines :=
    if column = indent && !rest.isEmpty then
      blockLines isFolded indent (rest.length + 1) breaks rest
    else
      ⟨[], [], breaks, rest⟩
  return (.ofChars (lines.text ++ header.chomping.tail lines), lines.rest)

end LinkedQuery.Yaml
