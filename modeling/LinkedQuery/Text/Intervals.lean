/-!
Contract: membership of a character in a set given as sorted code-point intervals.

Owns:
- the interval list and its membership test;
- the arithmetic progressions used by case mappings.

Does not own: any particular character class.
-/

namespace LinkedQuery.Text

/-- Closed intervals of code points in increasing order. -/
abbrev Intervals := List (Nat × Nat)

/-- Whether some interval holds the code point.

The intervals are increasing, so the search stops at the first one that starts
beyond the code point. -/
def Intervals.holds : Intervals → Nat → Bool
  | [], _ => false
  | (first, last) :: rest, code =>
      if code < first then
        false
      else if code ≤ last then
        true
      else
        Intervals.holds rest code

/-- Code points `first`, `first + step`, … up to `last`, all moved by one offset. -/
structure Progression where
  first : Nat
  last : Nat
  step : Nat
  offset : Int
deriving Repr, DecidableEq

/-- Whether the progression moves this code point. -/
def Progression.holds (progression : Progression) (code : Nat) : Bool :=
  progression.first ≤ code && code ≤ progression.last &&
    (code - progression.first) % progression.step == 0

/-- The code point after the move. -/
def Progression.apply (progression : Progression) (code : Nat) : Nat :=
  ((code : Int) + progression.offset).toNat

end LinkedQuery.Text
