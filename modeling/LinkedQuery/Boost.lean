import LinkedQuery.Number
import LinkedQuery.Text

/-!
Contract: the weight of a term.

Owns:
- the admissible weights: numbers that are finite as binary64 and not below
  zero;
- the check that makes a weight, with its faults in order.

Does not own: the default weight, which only the encoder knows.
-/

namespace LinkedQuery

/-- Whether a number may be a weight. -/
def Number.isAdmissible (number : Number) : Bool :=
  number.toDouble.isFinite && !number.isBelowZero

/-- A weight; the kind of its number is kept. -/
structure Boost where
  number : Number
  admissible : number.isAdmissible = true
deriving DecidableEq

/-- Why something is no weight. -/
inductive BoostFault
  | notNumber (shown : Text)
  | tooLarge
  | outOfRange (number : Number)
deriving Repr, DecidableEq

/-- The wording of a fault. -/
def BoostFault.message : BoostFault → Text
  | .notNumber shown => "boost must be a number, got " ++ shown
  | .tooLarge => "int too large to convert to float"
  | .outOfRange number => "boost must be finite and non-negative, got " ++ number.text

namespace Boost

/-- The weight of a number: an integer has to fit into binary64 before its sign
counts. -/
def ofNumber (number : Number) : Except BoostFault Boost :=
  if admissible : number.isAdmissible = true then
    .ok ⟨number, admissible⟩
  else
    match number with
    | .int value =>
        if (Double.ofInt value).isFinite then
          .error (.outOfRange (.int value))
        else
          .error .tooLarge
    | .float value => .error (.outOfRange (.float value))

/-- The weight as binary64. -/
def toDouble (boost : Boost) : Double :=
  boost.number.toDouble

/-- Whether two weights are equal as numbers. -/
def same (left right : Boost) : Bool :=
  left.number.same right.number

/-- The mark of a weight in normalized text; an absent weight has none. -/
def mark : Option Boost → String
  | none => ""
  | some boost => "^" ++ boost.toDouble.generalText

end Boost

end LinkedQuery
