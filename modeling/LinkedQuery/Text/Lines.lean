import LinkedQuery.Text

/-!
Contract: cutting text into lines.

Owns:
- the line boundaries of Unicode text, a carriage return followed by a line
  feed counting as one;
- the same boundaries turned into single line feeds when a text file is read.

Does not own: what a line means to a particular format.
-/

namespace LinkedQuery.Text

/-- Whether a code point ends a line. -/
def isLineEnd (code : CodePoint) : Bool :=
  code == '\n' || code == '\r' || code == '\x0b' || code == '\x0c' ||
    code == '\x1c' || code == '\x1d' || code == '\x1e' || code == '\u0085' ||
    code == '\u2028' || code == '\u2029'

/-- Put a code point in front of the first line. -/
private def extendFirst (code : CodePoint) : List (List CodePoint) → List (List CodePoint)
  | [] => [[code]]
  | line :: rest => (code :: line) :: rest

/-- The lines of a text; an end of line at the very end opens no further line. -/
def lines : List CodePoint → List (List CodePoint)
  | [] => []
  | .char '\r' :: .char '\n' :: rest => [] :: lines rest
  | code :: rest =>
      if isLineEnd code then
        [] :: lines rest
      else
        extendFirst code (lines rest)

/-- The lines of a text as texts. -/
def splitLines (text : Text) : List Text :=
  (lines text.toList).map Text.ofList

/-- Turn a carriage return, alone or before a line feed, into a line feed. -/
def unifyNewlines : List Char → List Char
  | [] => []
  | '\r' :: '\n' :: rest => '\n' :: unifyNewlines rest
  | '\r' :: rest => '\n' :: unifyNewlines rest
  | char :: rest => char :: unifyNewlines rest

end LinkedQuery.Text
