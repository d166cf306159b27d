import LinkedQuery.Text.Intervals

/-!
Contract: the classes of characters that give YAML text its form.

Owns:
- the characters that a text may hold;
- line breaks and what they contribute to a scalar;
- the tests on what stands next: a gap, a blank, the end of a line, a marker
  between documents.

Does not own: carriage returns, which a text file has lost by the time it is
read.
-/

namespace LinkedQuery.Yaml

/-- The code points that a text may hold. -/
def admittedIntervals : Text.Intervals :=
  [(0x09, 0x0A), (0x0D, 0x0D), (0x20, 0x7E), (0x85, 0x85), (0xA0, 0xD7FF),
   (0xE000, 0xFFFD), (0x10000, 0x10FFFF)]

/-- Whether a text may hold a character. -/
def isAdmitted (char : Char) : Bool :=
  admittedIntervals.holds char.toNat

/-- Whether a character ends a line. -/
def isBreak (char : Char) : Bool :=
  char == '\n' || char == '\u0085' || char == '\u2028' || char == '\u2029'

/-- What a line break contributes: the separators of Unicode stay as they are,
the others are line feeds. -/
def breakText (char : Char) : Char :=
  if char == '\u0085' then '\n' else char

/-- Whether a line or the text ends here. -/
def atLineEnd : List Char → Bool
  | [] => true
  | char :: _ => isBreak char

/-- Whether a space, a line break or the end comes next. -/
def atGap : List Char → Bool
  | [] => true
  | char :: _ => char == ' ' || isBreak char

/-- Whether a space, a tab, a line break or the end comes next. -/
def atBlank : List Char → Bool
  | [] => true
  | char :: _ => char == ' ' || char == '\t' || isBreak char

/-- Whether a marker between documents comes next; it counts at the start of a
line only. -/
def atMarker : List Char → Bool
  | '-' :: '-' :: '-' :: rest => atBlank rest
  | '.' :: '.' :: '.' :: rest => atBlank rest
  | _ => false

/-- Whether a character may stand in the name of an anchor, a directive or a
tag handle. -/
def isNameChar (char : Char) : Bool :=
  char.isDigit || ('A' ≤ char && char ≤ 'Z') || ('a' ≤ char && char ≤ 'z') ||
    char == '-' || char == '_'

/-- What remains of a line that may only hold spaces and a comment, its break
included; nothing if it holds more. -/
def restOfLine? (chars : List Char) : Option (List Char) :=
  let chars := chars.dropWhile (· == ' ')
  let chars :=
    if chars.head? = some '#' then
      chars.dropWhile fun char => !isBreak char
    else
      chars
  if atLineEnd chars then some (chars.drop 1) else none

end LinkedQuery.Yaml
