import LinkedQuery.Text
import LinkedQuery.Text.Intervals

/-!
Contract: white space, and trimming and splitting of text.

Owns:
- the white-space characters of Unicode text;
- trimming at both ends and splitting at one character.

Does not own: line boundaries, which are a different set of characters.
-/

namespace LinkedQuery.Text

/-- The white-space code points. -/
def blankIntervals : Intervals :=
  [(0x09, 0x0D), (0x1C, 0x20), (0x85, 0x85), (0xA0, 0xA0), (0x1680, 0x1680),
   (0x2000, 0x200A), (0x2028, 0x2029), (0x202F, 0x202F), (0x205F, 0x205F),
   (0x3000, 0x3000)]

/-- Whether a code point is white space. -/
def isBlank (code : CodePoint) : Bool :=
  blankIntervals.holds code.toNat

/-- Drop white space at the front. -/
def trimStart (codes : List CodePoint) : List CodePoint :=
  codes.dropWhile isBlank

/-- Drop white space at the back. -/
def trimEnd (codes : List CodePoint) : List CodePoint :=
  (codes.reverse.dropWhile isBlank).reverse

/-- Drop white space at both ends. -/
def trim (codes : List CodePoint) : List CodePoint :=
  trimEnd (trimStart codes)

/-- Drop white space at both ends of a text. -/
def trimmed (text : Text) : Text :=
  .ofList (trim text.toList)

/-- Whether a text holds nothing but white space. -/
def isAllBlank (text : Text) : Bool :=
  text.toList.all isBlank

/-- Cut at every occurrence of a separator; there is always at least one piece. -/
def pieces (separator : CodePoint) : List CodePoint → List (List CodePoint)
  | [] => [[]]
  | code :: rest =>
      if code = separator then
        [] :: pieces separator rest
      else
        match pieces separator rest with
        | [] => [[code]]
        | piece :: others => (code :: piece) :: others

/-- Cut a text at every occurrence of a separator. -/
def cut (separator : CodePoint) (text : Text) : List Text :=
  (pieces separator text.toList).map Text.ofList

end LinkedQuery.Text
