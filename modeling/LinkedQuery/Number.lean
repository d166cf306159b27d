import LinkedQuery.Number.Decimal

/-!
Contract: numbers that are either integers of any size or binary64 numbers.

Owns:
- the two kinds, their conversion to binary64 and their equality as numbers;
- their text.

Does not own: which numbers a place admits.
-/

namespace LinkedQuery

/-- An integer or a floating-point number. -/
inductive Number
  | int (value : Int)
  | float (value : Double)
deriving Repr, DecidableEq

namespace Number

/-- The nearest binary64 number; an integer beyond the last finite one becomes
infinite. -/
def toDouble : Number → Double
  | .int value => .ofInt value
  | .float value => value

/-- Whether a number is below zero. -/
def isBelowZero : Number → Bool
  | .int value => decide (value < 0)
  | .float value => value.isBelowZero

/-- The integer that a number is, if it is one. -/
def toInt? : Number → Option Int
  | .int value => some value
  | .float value => value.toInt?

/-- Whether two numbers are equal whatever their kind. -/
def same (left right : Number) : Bool :=
  match left.toInt?, right.toInt? with
  | some left, some right => left == right
  | none, none => left == right && left != .float .nan
  | _, _ => false

/-- The text of a number. -/
def text : Number → String
  | .int value => toString value
  | .float value => value.text

end Number

end LinkedQuery
