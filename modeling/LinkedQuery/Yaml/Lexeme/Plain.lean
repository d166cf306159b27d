import LinkedQuery.Yaml.Lexeme.Quoted

/-!
Contract: plain scalars of YAML text.

Owns:
- where a plain scalar ends, inside and outside flow collections;
- folding of the line breaks inside it.

Does not own: which characters a plain scalar may start with.
-/

namespace LinkedQuery.Yaml

/-- Whether a character structures flow collections. -/
def isFlowIndicator (char : Char) : Bool :=
  char == ',' || char == '[' || char == ']' || char == '\x7b' || char == '\x7d'

/-- Whether a plain scalar stops here. -/
def stopsPlain (inFlow : Bool) : List Char → Bool
  | [] => true
  | char :: rest =>
      atBlank (char :: rest) ||
        (char == ':' && (atBlank rest || (inFlow && rest.head?.any isFlowIndicator))) ||
        (inFlow && (isFlowIndicator char || char == '?'))

/-- A run of a plain scalar without blanks, and the text after it. -/
def plainRun (inFlow : Bool) : List Char → List Char × List Char
  | [] => ([], [])
  | char :: rest =>
      if stopsPlain inFlow (char :: rest) then
        ([], char :: rest)
      else
        let (run, after) := plainRun inFlow rest
        (char :: run, after)

/-- The blanks between two runs of a plain scalar. -/
structure PlainGap where
  /-- What they contribute, nothing where the scalar has to end. -/
  text : List Char
  /-- The column after them, if they hold a line break. -/
  column : Option Nat
  /-- The text after them. -/
  rest : List Char

/-- Further line breaks with the spaces at the start of lines, counted from a
column on; nothing where a marker between documents follows. -/
def plainBreaks (column : Nat) : List Char → Option (List Char) × Nat × List Char
  | [] => (some [], column, [])
  | char :: rest =>
      if char == ' ' then
        plainBreaks (column + 1) rest
      else if isBreak char then
        if atMarker rest then
          (none, 0, rest)
        else
          let (breaks, last, after) := plainBreaks 0 rest
          (breaks.map (breakText char :: ·), last, after)
      else
        (some [], column, char :: rest)

/-- The blanks that follow a run. -/
def plainGap (chars : List Char) : PlainGap :=
  let spaces := chars.takeWhile (· == ' ')
  match chars.dropWhile (· == ' ') with
  | [] => ⟨spaces, none, []⟩
  | char :: rest =>
      if isBreak char then
        if atMarker rest then
          ⟨[], some 0, rest⟩
        else
          match plainBreaks 0 rest with
          | (some breaks, column, after) =>
              ⟨foldedBreaks (breakText char) breaks, some column, after⟩
          | (none, column, after) => ⟨[], some column, after⟩
      else
        ⟨spaces, none, char :: rest⟩

/-- A plain scalar with the text after it. -/
structure PlainScalar where
  text : List Char
  /-- Whether a line break follows the scalar. -/
  endsLine : Bool
  rest : List Char

/-- The runs of a plain scalar and the gaps between them; outside flow
collections a line has to be indented to belong to the scalar.  Each step takes
a run, and the first argument bounds the steps. -/
def plainRuns (inFlow : Bool) (indent : Int) : Nat → List Char → PlainScalar
  | 0, chars => ⟨[], false, chars⟩
  | steps + 1, chars =>
      let (run, after) := plainRun inFlow chars
      let gap := plainGap after
      let isLeft := !inFlow && gap.column.any fun column => decide ((column : Int) < indent)
      if gap.text.isEmpty || gap.rest.head? = some '#' || isLeft ||
          stopsPlain inFlow gap.rest then
        ⟨run, gap.column.isSome, gap.rest⟩
      else
        let more := plainRuns inFlow indent steps gap.rest
        ⟨run ++ gap.text ++ more.text, more.endsLine, more.rest⟩

/-- A plain scalar; the indentation is the least one of its further lines. -/
def plainScalar (inFlow : Bool) (indent : Int) (chars : List Char) : PlainScalar :=
  plainRuns inFlow indent (chars.length + 1) chars

end LinkedQuery.Yaml
