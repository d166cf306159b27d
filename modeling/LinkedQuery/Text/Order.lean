import LinkedQuery.Text

/-!
Contract: the order of texts by code points.

Owns:
- the comparison and the sorted list of the distinct texts of a list.

Does not own: orders by language or by case.
-/

namespace LinkedQuery.Text

/-- Whether one text stands before another, compared code point by code
point. -/
def precedes : List CodePoint → List CodePoint → Bool
  | _, [] => false
  | [], _ :: _ => true
  | left :: leftRest, right :: rightRest =>
      if left.toNat < right.toNat then
        true
      else if right.toNat < left.toNat then
        false
      else
        precedes leftRest rightRest

/-- Put a text into a sorted list of distinct texts. -/
def insertSorted (text : Text) : List Text → List Text
  | [] => [text]
  | other :: rest =>
      if text = other then
        other :: rest
      else if precedes text.toList other.toList then
        text :: other :: rest
      else
        other :: insertSorted text rest

/-- The distinct texts of a list in order. -/
def sortedDistinct (texts : List Text) : List Text :=
  texts.foldr insertSorted []

end LinkedQuery.Text
