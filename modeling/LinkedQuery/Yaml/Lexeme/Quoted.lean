import LinkedQuery.Text.Digit
import LinkedQuery.Yaml.Character
import LinkedQuery.Yaml.Fault

/-!
Contract: quoted scalars of YAML text.

Owns:
- folding of the line breaks inside the quotes;
- the escapes between double quotes, and the doubled quote between single ones.

Does not own: unquoted scalars.
-/

namespace LinkedQuery.Yaml

/-- The line breaks that follow a line break, blanks at the start of lines
dropped, and the text after them; a marker between documents is malformed. -/
def quotedBreaks (atLineStart : Bool) (chars : List Char) :
    Except Fault (List Char × List Char) :=
  if atLineStart && atMarker chars then
    .error .malformed
  else
    match chars with
    | [] => .ok ([], [])
    | char :: rest =>
        if char == ' ' || char == '\t' then
          quotedBreaks false rest
        else if isBreak char then
          (quotedBreaks true rest).map fun (breaks, rest) => (breakText char :: breaks, rest)
        else
          .ok ([], char :: rest)

/-- What a line break followed by further breaks contributes: a single line
feed becomes a space, otherwise the first line feed is dropped. -/
def foldedBreaks (first : Char) (breaks : List Char) : List Char :=
  if first ≠ '\n' then
    first :: breaks
  else if breaks.isEmpty then
    [' ']
  else
    breaks

/-- The character of an escape of one letter. -/
def escaped? : Char → Option Char
  | '0' => some '\x00'
  | 'a' => some '\x07'
  | 'b' => some '\x08'
  | 't' => some '\t'
  | '\t' => some '\t'
  | 'n' => some '\n'
  | 'v' => some '\x0b'
  | 'f' => some '\x0c'
  | 'r' => some '\r'
  | 'e' => some '\x1b'
  | ' ' => some ' '
  | '"' => some '"'
  | '\\' => some '\\'
  | '/' => some '/'
  | 'N' => some '\u0085'
  | '_' => some '\u00a0'
  | 'L' => some '\u2028'
  | 'P' => some '\u2029'
  | _ => none

/-- The number of hexadecimal digits after an escape letter. -/
def escapeWidth? : Char → Option Nat
  | 'x' => some 2
  | 'u' => some 4
  | 'U' => some 8
  | _ => none

/-- A number of so many hexadecimal digits, and the text after it. -/
def hexNumber? : Nat → Nat → List Char → Option (Nat × List Char)
  | 0, value, chars => some (value, chars)
  | _ + 1, _, [] => none
  | width + 1, value, char :: rest =>
      match Text.hexValue? char with
      | some digit => hexNumber? width (value * 16 + digit) rest
      | none => none

/-- The code point with a number. -/
def codeOfNumber (code : Nat) : Except Fault CodePoint :=
  if 0x7FFFFFFF < code then
    .error (.scalar .characterTooLarge)
  else if 0x10FFFF < code then
    .error (.scalar .noCharacter)
  else
    .ok (.ofNat code)

/-- What an escape contributes, from the character after the backslash on, and
the text after it. -/
def escape : List Char → Except Fault (List CodePoint × List Char)
  | [] => .error .malformed
  | char :: rest =>
      match escaped? char, escapeWidth? char with
      | some replacement, _ => .ok ([replacement], rest)
      | none, some width =>
          match hexNumber? width 0 rest with
          | some (code, rest) => (codeOfNumber code).map fun replacement => ([replacement], rest)
          | none => .error .malformed
      | none, none =>
          if isBreak char then
            (quotedBreaks true rest).map fun (breaks, rest) => (breaks.map CodePoint.char, rest)
          else
            .error .malformed

/-- What blanks inside quotes contribute, and the text after them: blanks at
the end of a line are dropped and the line break is folded. -/
def quotedBlanks (chars : List Char) : Except Fault (List CodePoint × List Char) :=
  let isSpace (char : Char) : Bool := char == ' ' || char == '\t'
  match chars.dropWhile isSpace with
  | [] => .error .malformed
  | char :: rest =>
      if isBreak char then
        (quotedBreaks true rest).map fun (breaks, rest) =>
          ((foldedBreaks (breakText char) breaks).map CodePoint.char, rest)
      else
        .ok ((chars.takeWhile isSpace).map CodePoint.char, char :: rest)

/-- The content of a quoted scalar and the text after the closing quote; each
step takes at least one character, and the first argument bounds the steps. -/
def quoted (quote : Char) : Nat → List Char → Except Fault (List CodePoint × List Char)
  | 0, _ => .error .malformed
  | _ + 1, [] => .error .malformed
  | steps + 1, char :: rest =>
      let continueWith (part : Except Fault (List CodePoint × List Char)) :
          Except Fault (List CodePoint × List Char) := do
        let (text, rest) ← part
        let (more, rest) ← quoted quote steps rest
        return (text ++ more, rest)
      if char = quote then
        match quote, rest with
        | '\x27', '\x27' :: rest => continueWith (.ok ([quote], rest))
        | _, _ => .ok ([], rest)
      else if quote = '"' && char = '\\' then
        continueWith (escape rest)
      else if atBlank (char :: rest) then
        continueWith (quotedBlanks (char :: rest))
      else
        continueWith (.ok ([char], rest))

/-- A quoted scalar from the character after its opening quote on. -/
def quotedScalar (quote : Char) (chars : List Char) : Except Fault (Text × List Char) :=
  (quoted quote (chars.length + 1) chars).map fun (text, rest) => (.ofList text, rest)

end LinkedQuery.Yaml
