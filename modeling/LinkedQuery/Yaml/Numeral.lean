import LinkedQuery.Number.Double
import LinkedQuery.Number.Limit
import LinkedQuery.Text.Blank
import LinkedQuery.Text.Case
import LinkedQuery.Text.Digit
import LinkedQuery.Yaml.Fault

/-!
Contract: numbers as YAML scalars.

Owns:
- the forms of integers and of decimals, underlines and base sixty among them;
- the value of a scalar that is tagged as a number, whatever its form;
- which spellings denote one and the same NaN.

Does not own: the arithmetic.
-/

namespace LinkedQuery.Yaml

/-- A text without a sign in front. -/
def dropSign : List CodePoint → List CodePoint
  | .char '+' :: rest => rest
  | .char '-' :: rest => rest
  | codes => codes

/-- Whether a code point is a digit or an underline. -/
def isSpacedDigit (code : CodePoint) : Bool :=
  code.isDigit || code == '_'

/-- Whether a code point is one of some characters. -/
def isAmong (chars : String) (code : CodePoint) : Bool :=
  code.char?.any chars.toList.contains

/-- Whether a text is a number below sixty of one or two digits. -/
def isSixtieth : List CodePoint → Bool
  | [digit] => digit.isDigit
  | [tens, digit] => isAmong "012345" tens && digit.isDigit
  | _ => false

/-- Whether an unmarked scalar is an integer. -/
def isInteger (codes : List CodePoint) : Bool :=
  match dropSign codes with
  | [.char '0'] => true
  | .char '0' :: .char 'b' :: digits => !digits.isEmpty && digits.all (isAmong "01_")
  | .char '0' :: .char 'x' :: digits =>
      !digits.isEmpty && digits.all fun digit => (Text.hexValue? digit).isSome || digit == '_'
  | .char '0' :: digits => digits.all (isAmong "01234567_")
  | body =>
      match Text.pieces ':' body with
      | (first :: more) :: groups =>
          isAmong "123456789" first && more.all isSpacedDigit && groups.all isSixtieth
      | _ => false

/-- Whether a text is empty or an exponent with a sign. -/
def isExponent : List CodePoint → Bool
  | [] => true
  | mark :: sign :: digits =>
      (mark == 'e' || mark == 'E') && (sign == '+' || sign == '-') && !digits.isEmpty &&
        digits.all CodePoint.isDigit
  | _ => false

/-- Whether a text is a whole part: a digit, then digits and underlines. -/
def isWholePart : List CodePoint → Bool
  | [] => false
  | first :: more => first.isDigit && more.all isSpacedDigit

/-- Whether code points spell one of some words. -/
def spells (words : List Text) (codes : List CodePoint) : Bool :=
  words.contains (.ofList codes)

/-- Whether an unmarked scalar is a decimal. -/
def isDecimal (codes : List CodePoint) : Bool :=
  let body := dropSign codes
  let whole := body.takeWhile (· != .char '.')
  match body.dropWhile (· != .char '.') with
  | [] => false
  | _ :: fraction =>
      let digits := fraction.takeWhile isSpacedDigit
      let exponent := fraction.dropWhile isSpacedDigit
      if whole.isEmpty then
        spells ["inf", "Inf", "INF"] fraction ||
          (body.length == codes.length &&
            (spells ["nan", "NaN", "NAN"] fraction ||
              (isWholePart digits && isExponent exponent)))
      else
        match Text.pieces ':' whole with
        | [single] => isWholePart single && isExponent exponent
        | first :: groups => isWholePart first && groups.all isSixtieth && exponent.isEmpty
        | [] => false

/-- Whether a code point may stand around a number: white space, the separators
of ASCII apart. -/
def isNumberBlank (code : CodePoint) : Bool :=
  Text.isBlank code && !(0x1C ≤ code.toNat && code.toNat ≤ 0x1F)

/-- Drop what may stand around a number. -/
def trimNumber (codes : List CodePoint) : List CodePoint :=
  ((codes.dropWhile isNumberBlank).reverse.dropWhile isNumberBlank).reverse

/-- The value of a digit in any script, or of a letter that counts as one. -/
def anyDigit? (code : CodePoint) : Option Nat :=
  (Text.digitValue? code).or (Text.hexValue? code)

/-- The number that digits of a base write; there is at least one. -/
def numberOfBase? (base : Nat) (digits : List CodePoint) : Option Nat :=
  if digits.isEmpty then
    none
  else
    digits.foldl
      (fun value digit => do
        let digit ← anyDigit? digit
        if digit < base then return (← value) * base + digit else none)
      (some 0)

/-- The letter that may mark a base after a zero. -/
def baseMark? : Nat → Option Char
  | 2 => some 'b'
  | 8 => some 'o'
  | 16 => some 'x'
  | _ => none

/-- Digits without the mark of their base. -/
def dropBaseMark (base : Nat) (digits : List CodePoint) : List CodePoint :=
  match baseMark? base, digits with
  | some mark, .char '0' :: code :: rest =>
      if code = mark || code = mark.toUpper then rest else digits
  | _, _ => digits

/-- The length of a run of decimal digits that is too long to be read; the
bases that are powers of two have no limit. -/
def overlongRun? (base : Nat) (digits : List CodePoint) : Option Nat :=
  let run := digits.takeWhile fun digit => (Text.digitValue? digit).isSome
  if base = 10 && maxDigits < run.length then some run.length else none

/-- An integer of a base with an optional sign, blanks around it allowed. -/
def integerOfBase (base : Nat) (codes : List CodePoint) : Except ScalarFault Int :=
  let body := trimNumber codes
  let digits := dropBaseMark base (dropSign body)
  match overlongRun? base digits with
  | some length => .error (.overlong (.read length))
  | none =>
      match numberOfBase? base digits with
      | some value =>
          .ok (if body.head? = some (.char '-') then -(value : Int) else (value : Int))
      | none => .error (.notInteger base (.ofList codes))

/-- The integer of a text without underlines and without its sign. -/
def unsignedInteger : List CodePoint → Except ScalarFault Int
  | [] => .error .emptyNumeral
  | [.char '0'] => .ok 0
  | .char '0' :: .char 'b' :: digits => integerOfBase 2 digits
  | .char '0' :: .char 'x' :: digits => integerOfBase 16 digits
  | .char '0' :: rest => integerOfBase 8 (.char '0' :: rest)
  | body => do
      let groups ← (Text.pieces ':' body).mapM (integerOfBase 10)
      return groups.foldl (fun value group => value * 60 + group) 0

/-- A text without underlines. -/
def withoutUnderlines (text : Text) : Text :=
  .ofList (text.toList.filter (· != .char '_'))

/-- The integer that a tagged scalar denotes. -/
def integerOf (text : Text) : Except ScalarFault Int :=
  let codes := (withoutUnderlines text).toList
  if codes.isEmpty then
    .error .emptyNumeral
  else
    (unsignedInteger (dropSign codes)).map fun value =>
      if codes.head? = some (.char '-') then -value else value

/-- The exponent at the end of a decimal, if the text is one or is empty. -/
def exponentOf? : List CodePoint → Option Int
  | [] => some 0
  | .char 'e' :: rest => do
      let value ← numberOfBase? 10 (dropSign rest)
      return if rest.head? = some (.char '-') then -(value : Int) else (value : Int)
  | _ => none

/-- The number of digits with an optional point among them and an optional
exponent. -/
def plainDecimal? (negative : Bool) (codes : List CodePoint) : Option Double := do
  let isAnyDigit (code : CodePoint) : Bool := (Text.digitValue? code).isSome
  let whole := codes.takeWhile isAnyDigit
  let rest := codes.dropWhile isAnyDigit
  let (places, rest) :=
    match rest with
    | .char '.' :: rest => (rest.takeWhile isAnyDigit, rest.dropWhile isAnyDigit)
    | _ => ([], rest)
  let digits ← numberOfBase? 10 (whole ++ places)
  let exponent ← exponentOf? rest
  return .ofDecimal negative digits (exponent - (places.length : Int))

/-- A number in small letters with an optional sign, blanks around it
allowed. -/
def decimalOf (codes : List CodePoint) : Except ScalarFault Double :=
  let body := trimNumber codes
  let negative := body.head? = some (.char '-')
  let magnitude := dropSign body
  if spells ["inf", "infinity"] magnitude then
    .ok (.infinite negative)
  else if spells ["nan"] magnitude then
    .ok .nan
  else
    match plainDecimal? negative magnitude with
    | some value => .ok value
    | none => .error (.notDecimal (.ofList codes))

/-- The sum of the groups of base sixty, the last one first; each place has to
be a floating-point number. -/
def sumOfSixtieths : Double → Nat → List Double → Except ScalarFault Double
  | total, _, [] => .ok total
  | total, place, group :: rest =>
      if (Double.ofInt place).isFinite then
        sumOfSixtieths (total.add (group.mul (.ofInt place))) (place * 60) rest
      else
        .error .decimalTooLarge

/-- The decimal of a text in small letters without its sign. -/
def unsignedDecimal (body : List CodePoint) : Except ScalarFault Double :=
  if spells [".inf"] body then
    .ok (.infinite false)
  else if spells [".nan"] body then
    .ok .nan
  else if body.contains ':' then do
    let groups ← (Text.pieces ':' body).mapM decimalOf
    sumOfSixtieths (.zeroOf false) 1 groups.reverse
  else
    decimalOf body

/-- The text of a tagged decimal in the form that counts. -/
def decimalForm (text : Text) : List CodePoint :=
  (Text.lower (withoutUnderlines text)).toList

/-- The decimal that a tagged scalar denotes. -/
def decimalOfText (text : Text) : Except ScalarFault Double :=
  let codes := decimalForm text
  if codes.isEmpty then
    .error .emptyNumeral
  else
    (unsignedDecimal (dropSign codes)).map fun value =>
      if codes.head? = some (.char '-') then value.neg else value

/-- Whether a tagged scalar is spelt as the one NaN that all such spellings
share; any other NaN is a value of its own. -/
def isSharedNan (text : Text) : Bool :=
  spells [".nan"] (dropSign (decimalForm text))

end LinkedQuery.Yaml
