import LinkedQuery.Number.Double

/-!
Contract: decimal text of binary64 numbers.

Owns:
- the shortest decimal that reads back as a given number, the nearest of those;
- the decimal with a given count of significant digits;
- the two layouts in use: full precision, which keeps a point, and six
  significant digits, which drops what is not needed.

Does not own: the binary values.
-/

namespace LinkedQuery

/-- Significant digits as one number, and the power of ten of its last digit. -/
structure Decimal where
  digits : Nat
  exponent : Int
deriving Repr, DecidableEq

namespace Decimal

/-- The same value with up to so many zeros taken off the end of its digits. -/
def withoutTrailingZeros : Nat → Decimal → Decimal
  | 0, decimal => decimal
  | places + 1, decimal =>
      if decimal.digits != 0 && decimal.digits % 10 == 0 then
        withoutTrailingZeros places ⟨decimal.digits / 10, decimal.exponent + 1⟩
      else
        decimal

/-- The same value without zeros at the end of its digits. -/
def normalized (decimal : Decimal) : Decimal :=
  withoutTrailingZeros (Nat.toDigits 10 decimal.digits).length decimal

/-- The power of ten of the first digit of a positive magnitude in least
units.

The least unit is above `10 ^ -330`, so the scaled magnitude is at least one. -/
def leadingPower (units : Nat) : Int :=
  let scaled := units * Nat.pow 10 330 / Double.unitsPerOne
  ((Nat.toDigits 10 scaled).length : Int) - 1 - 330

/-- A magnitude in least units as a fraction of `10 ^ exponent`. -/
def onGrid (units : Nat) (exponent : Int) : Nat × Nat :=
  if 0 ≤ exponent then
    (units, Double.unitsPerOne * Nat.pow 10 exponent.toNat)
  else
    (units * Nat.pow 10 (-exponent).toNat, Double.unitsPerOne)

/-- The decimal of `count` significant digits nearest to a magnitude, a half
going to the even digit. -/
def significant (count units : Nat) : Decimal :=
  let exponent := leadingPower units - (count : Int) + 1
  let (numerator, denominator) := onGrid units exponent
  normalized ⟨Double.roundQuotient numerator denominator, exponent⟩

/-- The better of the two neighbours of a magnitude on the grid of an exponent
that read back as the given ordinal. -/
def nearestOnGrid (ordinal units : Nat) (exponent : Int) : Option Decimal :=
  let (numerator, denominator) := onGrid units exponent
  let below := numerator / denominator
  let readsBack (digits : Nat) : Bool :=
    Double.ofDecimal false digits exponent == Double.ofOrdinal false ordinal
  let nearer := Double.roundQuotient numerator denominator
  let farther := if nearer = below then below + 1 else below
  if readsBack nearer then
    some ⟨nearer, exponent⟩
  else if readsBack farther then
    some ⟨farther, exponent⟩
  else
    none

/-- The better of the two neighbours of a magnitude with `count` significant
digits. -/
def nearestReadingBack (ordinal units count : Nat) : Option Decimal :=
  nearestOnGrid ordinal units (leadingPower units - (count : Int) + 1)

/-- The decimal with the fewest digits that reads back as a positive magnitude.

Seventeen digits always suffice. -/
def shortest (ordinal : Nat) : Decimal :=
  let units := Double.unitsOf ordinal
  let candidate := (List.range 17).findSome? fun missing =>
    nearestReadingBack ordinal units (missing + 1)
  normalized (candidate.getD (significant 17 units))

/-- How digits are laid out as text. -/
structure Layout where
  /-- Powers of ten of the first digit below this one, down to `-4`, are written
  without an exponent. -/
  positionalBelow : Int
  /-- Whether a whole number keeps a point and a zero. -/
  keepsPoint : Bool
deriving Repr, DecidableEq

/-- An exponent with its sign and at least two digits. -/
def exponentText (power : Int) : List Char :=
  let digits := Nat.toDigits 10 power.natAbs
  'e' :: (if power < 0 then '-' else '+') ::
    (if digits.length < 2 then '0' :: digits else digits)

/-- The text of a decimal without a sign. -/
def layOut (layout : Layout) (decimal : Decimal) : List Char :=
  let digits := Nat.toDigits 10 decimal.digits
  let power := decimal.exponent + (digits.length : Int) - 1
  if decide (-4 ≤ power) && decide (power < layout.positionalBelow) then
    if decimal.exponent < 0 then
      if power < 0 then
        '0' :: '.' :: (List.replicate (-power - 1).toNat '0' ++ digits)
      else
        digits.take (power.toNat + 1) ++ '.' :: digits.drop (power.toNat + 1)
    else
      digits ++ List.replicate decimal.exponent.toNat '0' ++
        (if layout.keepsPoint then ['.', '0'] else [])
  else
    match digits with
    | [] => []
    | first :: [] => first :: exponentText power
    | first :: rest => first :: '.' :: (rest ++ exponentText power)

end Decimal

namespace Double

/-- Full precision: positional up to sixteen digits before the point, and a
whole number keeps its point. -/
def fullLayout : Decimal.Layout := ⟨16, true⟩

/-- General form with six significant digits. -/
def generalLayout : Decimal.Layout := ⟨6, false⟩

/-- A text behind the sign of its number. -/
def signed (negative : Bool) (chars : List Char) : List Char :=
  if negative then '-' :: chars else chars

/-- The shortest text that reads back as the number. -/
def chars : Double → List Char
  | .nan => ['n', 'a', 'n']
  | .infinite negative => signed negative ['i', 'n', 'f']
  | .finite negative ordinal =>
      signed negative <|
        if ordinal.val = 0 then
          Decimal.layOut fullLayout ⟨0, 0⟩
        else
          Decimal.layOut fullLayout (Decimal.shortest ordinal.val)

/-- The shortest text that reads back as the number. -/
def text (number : Double) : String :=
  String.ofList number.chars

/-- The text with six significant digits. -/
def generalText : Double → String
  | .nan => "nan"
  | .infinite negative => if negative then "-inf" else "inf"
  | .finite negative ordinal =>
      String.ofList <| signed negative <|
        if ordinal.val = 0 then
          Decimal.layOut generalLayout ⟨0, 0⟩
        else
          Decimal.layOut generalLayout (Decimal.significant 6 (unitsOf ordinal.val))

end Double

end LinkedQuery
