/-!
Contract: binary floating-point numbers of 64 bits as exact data.

Owns:
- the values, signed zeros, infinities and a single NaN among them;
- the exact fraction of a finite value;
- rounding of a fraction, a decimal or an integer to the nearest value, a half
  going to the even neighbour;
- sum and product, rounded once.

Does not own: the text of a number.
-/

namespace LinkedQuery

/-- A binary64 number.

The finite magnitudes are counted from zero: `ordinal` is the number of
magnitudes below this one.  There are `2047 * 2 ^ 52` of them. -/
inductive Double
  | nan
  | infinite (negative : Bool)
  | finite (negative : Bool) (ordinal : Fin 9218868437227405312)
deriving Repr, DecidableEq

namespace Double

/-- The number of finite magnitudes. -/
def magnitudes : Nat := 9218868437227405312

/-- The number of magnitudes between two neighbouring powers of two. -/
def fractions : Nat := 4503599627370496

/-- The number of least units in one: the least positive magnitude is one
over this. -/
def unitsPerOne : Nat := 1 <<< 1074

/-- The magnitude of an ordinal in least units. -/
def unitsOf (ordinal : Nat) : Nat :=
  if ordinal < fractions then
    ordinal
  else
    (fractions + ordinal % fractions) <<< (ordinal / fractions - 1)

/-- Zero with a sign. -/
def zeroOf (negative : Bool) : Double :=
  .finite negative ⟨0, by decide⟩

/-- The number one. -/
def one : Double :=
  .finite false ⟨4607182418800017408, by decide⟩

/-- A magnitude with a sign; beyond the last finite one lies infinity. -/
def ofOrdinal (negative : Bool) (ordinal : Nat) : Double :=
  if inRange : ordinal < 9218868437227405312 then
    .finite negative ⟨ordinal, inRange⟩
  else
    .infinite negative

/-- The quotient rounded to the nearest natural number, a half to the even
one. -/
def roundQuotient (numerator denominator : Nat) : Nat :=
  let quotient := numerator / denominator
  let remainder := numerator % denominator
  if 2 * remainder < denominator then
    quotient
  else if denominator < 2 * remainder then
    quotient + 1
  else
    quotient + quotient % 2

/-- The nearest number to a fraction.

The fraction is counted in least units and brought to at most 53 binary
places; the ordinal of `significand * 2 ^ shift` units is then
`shift * 2 ^ 52 + significand`, also when the rounding carries into the next
power of two. -/
def ofFraction (negative : Bool) (numerator denominator : Nat) : Double :=
  let units := numerator * unitsPerOne
  let shift := (units / denominator).log2 + 1 - 53
  ofOrdinal negative
    (shift * fractions + roundQuotient units (denominator <<< shift))

/-- The nearest number to `digits * 10 ^ exponent`.

Beyond four hundred places on either side the result is infinite or zero
whatever the digits are. -/
def ofDecimal (negative : Bool) (digits : Nat) (exponent : Int) : Double :=
  let places := ((Nat.toDigits 10 digits).length : Int) + exponent
  if digits = 0 || places < -400 then
    zeroOf negative
  else if 400 < places then
    .infinite negative
  else if 0 ≤ exponent then
    ofFraction negative (digits * Nat.pow 10 exponent.toNat) 1
  else
    ofFraction negative digits (Nat.pow 10 (-exponent).toNat)

/-- The nearest number to an integer. -/
def ofInt (value : Int) : Double :=
  ofFraction (value < 0) value.natAbs 1

/-- Whether a number is neither infinite nor NaN. -/
def isFinite : Double → Bool
  | .finite _ _ => true
  | _ => false

/-- Whether a number is below zero; a negative zero is not. -/
def isBelowZero : Double → Bool
  | .nan => false
  | .infinite negative => negative
  | .finite negative ordinal => negative && ordinal.val != 0

/-- The signed number of least units of a finite number. -/
def signedUnits (negative : Bool) (ordinal : Nat) : Int :=
  if negative then -(unitsOf ordinal : Int) else (unitsOf ordinal : Int)

/-- The opposite number. -/
def neg : Double → Double
  | .nan => .nan
  | .infinite negative => .infinite (!negative)
  | .finite negative ordinal => .finite (!negative) ordinal

/-- The rounded sum. -/
def add : Double → Double → Double
  | .nan, _ => .nan
  | _, .nan => .nan
  | .infinite left, .infinite right => if left = right then .infinite left else .nan
  | .infinite left, .finite _ _ => .infinite left
  | .finite _ _, .infinite right => .infinite right
  | .finite left leftOrdinal, .finite right rightOrdinal =>
      let total := signedUnits left leftOrdinal.val + signedUnits right rightOrdinal.val
      if total = 0 then
        zeroOf (left && right)
      else
        ofFraction (total < 0) total.natAbs unitsPerOne

/-- The rounded product. -/
def mul : Double → Double → Double
  | .nan, _ => .nan
  | _, .nan => .nan
  | .infinite left, .infinite right => .infinite (left != right)
  | .infinite left, .finite right ordinal =>
      if ordinal.val = 0 then .nan else .infinite (left != right)
  | .finite left ordinal, .infinite right =>
      if ordinal.val = 0 then .nan else .infinite (left != right)
  | .finite left leftOrdinal, .finite right rightOrdinal =>
      ofFraction (left != right) (unitsOf leftOrdinal.val * unitsOf rightOrdinal.val)
        (unitsPerOne * unitsPerOne)

/-- The integer that a number is, if it is one. -/
def toInt? : Double → Option Int
  | .finite negative ordinal =>
      let units := signedUnits negative ordinal.val
      if units.natAbs % unitsPerOne = 0 then
        some (units.tdiv unitsPerOne)
      else
        none
  | _ => none

end Double

end LinkedQuery
