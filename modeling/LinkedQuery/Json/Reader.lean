import LinkedQuery.Json
import LinkedQuery.Number.Limit
import LinkedQuery.Text.Digit

/-!
Contract: JSON text read into data.

Owns:
- the grammar: values with blanks around them and nothing after them;
- numbers, a literal with a fraction or an exponent being a binary64 number and
  any other an integer; the words for NaN and the infinities;
- strings with their escapes, a pair of surrogate escapes being one character
  and a single one standing for itself;
- repeated keys, of which the last value counts at the place of the first;
- the first fault: a text of another form, or an integer that is too long.

Does not own: the wording of a fault of form.
-/

namespace LinkedQuery.Json

/-- Why a text is not read. -/
inductive ReadFault
  | malformed
  | overlong (fault : OverlongInteger)
deriving Repr, DecidableEq

/-- The blanks around values. -/
def isSpace (code : CodePoint) : Bool :=
  code == ' ' || code == '\t' || code == '\n' || code == '\r'

/-- Drop blanks at the front. -/
def skipSpace (codes : List CodePoint) : List CodePoint :=
  codes.dropWhile isSpace

/-- The number that four hexadecimal digits write. -/
def hexFour? (first second third fourth : CodePoint) : Option Nat := do
  let first ← Text.hexValue? first
  let second ← Text.hexValue? second
  let third ← Text.hexValue? third
  let fourth ← Text.hexValue? fourth
  return ((first * 16 + second) * 16 + third) * 16 + fourth

/-- Whether a number is that of the first half of a surrogate pair. -/
def isHighSurrogate (code : Nat) : Bool :=
  0xD800 ≤ code && code < 0xDC00

/-- Whether a number is that of the second half of a surrogate pair. -/
def isLowSurrogate (code : Nat) : Bool :=
  0xDC00 ≤ code && code < 0xE000

/-- The code point that a one-letter escape stands for. -/
def escapeLetter? : CodePoint → Option CodePoint
  | .char '"' => some '"'
  | .char '\\' => some '\\'
  | .char '/' => some '/'
  | .char 'b' => some '\x08'
  | .char 'f' => some '\x0c'
  | .char 'n' => some '\n'
  | .char 'r' => some '\r'
  | .char 't' => some '\t'
  | _ => none

/-- Read the rest of a string after its opening quote.  A high surrogate that
was just escaped waits in `pending` for its partner. -/
def readStringFrom (pending : Option Nat) :
    List CodePoint → Option (List CodePoint × List CodePoint)
  | [] => none
  | .char '"' :: rest => some (flush pending, rest)
  | .char '\\' :: .char 'u' :: first :: second :: third :: fourth :: rest => do
      let code ← hexFour? first second third fourth
      match pending with
      | some high =>
          if isLowSurrogate code then
            let pair := 0x10000 + (high - 0xD800) * 0x400 + (code - 0xDC00)
            let (value, after) ← readStringFrom none rest
            return (.ofNat pair :: value, after)
          else if isHighSurrogate code then
            let (value, after) ← readStringFrom (some code) rest
            return (.ofNat high :: value, after)
          else
            let (value, after) ← readStringFrom none rest
            return (.ofNat high :: .ofNat code :: value, after)
      | none =>
          if isHighSurrogate code then
            readStringFrom (some code) rest
          else
            let (value, after) ← readStringFrom none rest
            return (.ofNat code :: value, after)
  | .char '\\' :: letter :: rest => do
      let code ← escapeLetter? letter
      let (value, after) ← readStringFrom none rest
      return (flush pending ++ code :: value, after)
  | code :: rest =>
      if code = '\\' || code.toNat < 0x20 then
        none
      else do
        let (value, after) ← readStringFrom none rest
        return (flush pending ++ code :: value, after)
where
  /-- The waiting surrogate, which found no partner. -/
  flush : Option Nat → List CodePoint
    | some code => [.ofNat code]
    | none => []

/-- Read the rest of a string after its opening quote. -/
def readString (codes : List CodePoint) : Option (List CodePoint × List CodePoint) :=
  readStringFrom none codes

/-- Split off the digits of an exponent, if a whole exponent stands here. -/
def readExponent (codes : List CodePoint) : Option (Int × List CodePoint) :=
  match codes with
  | letter :: rest =>
      if letter = 'e' || letter = 'E' then
        let (negative, rest) :=
          match rest with
          | .char '-' :: rest => (true, rest)
          | .char '+' :: rest => (false, rest)
          | rest => (false, rest)
        let digits := rest.takeWhile CodePoint.isDigit
        if digits.isEmpty then
          none
        else
          let value : Int := Text.digitsValue digits
          some (if negative then -value else value, rest.drop digits.length)
      else
        none
  | [] => none

/-- Split off a fraction, if a point with a digit after it stands here. -/
def readFraction (codes : List CodePoint) : Option (List CodePoint × List CodePoint) :=
  match codes with
  | .char '.' :: rest =>
      let digits := rest.takeWhile CodePoint.isDigit
      if digits.isEmpty then none else some (digits, rest.drop digits.length)
  | _ => none

/-- The integer that digits write. -/
def integer (negative : Bool) (digits : List CodePoint) : Except ReadFault Json :=
  if maxDigits < digits.length then
    .error (.overlong (.read digits.length))
  else
    let value : Int := Text.digitsValue digits
    .ok (.int (if negative then -value else value))

/-- The digits of a number before its point; after a zero there are no more. -/
def wholeDigits : List CodePoint → List CodePoint
  | .char '0' :: _ => ['0']
  | codes => codes.takeWhile CodePoint.isDigit

/-- Read the part of a number after its sign. -/
def readMagnitude (negative : Bool) (codes : List CodePoint) :
    Except ReadFault (Json × List CodePoint) :=
  let whole := wholeDigits codes
  if whole.isEmpty then
    .error .malformed
  else
    let rest := codes.drop whole.length
    let fraction := readFraction rest
    let afterFraction := (fraction.map Prod.snd).getD rest
    let exponent := readExponent afterFraction
    let after := (exponent.map Prod.snd).getD afterFraction
    if fraction.isNone && exponent.isNone then
      (integer negative whole).map fun value => (value, after)
    else
      let places := (fraction.map Prod.fst).getD []
      let power := (exponent.map Prod.fst).getD 0 - (places.length : Int)
      .ok (.float (Double.ofDecimal negative (Text.digitsValue (whole ++ places)) power), after)

/-- Read a number. -/
def readNumber (codes : List CodePoint) : Except ReadFault (Json × List CodePoint) :=
  match codes with
  | .char '-' :: rest => readMagnitude true rest
  | _ => readMagnitude false codes

/-- The words of the format. -/
def wordValues : List (Text × Json) :=
  [("null", .null), ("true", .bool true), ("false", .bool false), ("NaN", .float .nan),
   ("Infinity", .float (.infinite false)), ("-Infinity", .float (.infinite true))]

/-- Read one of the words of the format. -/
def readWord? (codes : List CodePoint) : Option (Json × List CodePoint) :=
  wordValues.findSome? fun (word, value) =>
    if word.toList.isPrefixOf codes then some (value, codes.drop word.length) else none

/-- A part that was read, or the fault of form. -/
def orMalformed {α : Type} : Option α → Except ReadFault α
  | some value => .ok value
  | none => .error .malformed

mutual

/-- Read a value that starts at the front of the text.

Each step inside takes at least one code point, so a fuel of the text's length
suffices. -/
def readValue : Nat → List CodePoint → Except ReadFault (Json × List CodePoint)
  | 0, _ => .error .malformed
  | fuel + 1, codes =>
      match codes with
      | .char '"' :: rest => do
          let (value, after) ← orMalformed (readString rest)
          return (.string (.ofList value), after)
      | .char '[' :: rest =>
          match skipSpace rest with
          | .char ']' :: after => .ok (.array [], after)
          | rest => (readItems fuel rest).map fun (items, after) => (.array items, after)
      | .char '{' :: rest =>
          match skipSpace rest with
          | .char '}' :: after => .ok (.object [], after)
          | rest => (readFields fuel [] rest).map fun (fields, after) => (.object fields, after)
      | _ =>
          match readWord? codes with
          | some found => .ok found
          | none => readNumber codes

/-- Read the items of an array up to its closing bracket. -/
def readItems : Nat → List CodePoint → Except ReadFault (List Json × List CodePoint)
  | 0, _ => .error .malformed
  | fuel + 1, codes => do
      let (item, rest) ← readValue fuel codes
      match skipSpace rest with
      | .char ']' :: after => return ([item], after)
      | .char ',' :: rest =>
          let (items, after) ← readItems fuel (skipSpace rest)
          return (item :: items, after)
      | _ => throw .malformed

/-- Read the fields of an object up to its closing brace, after those already
read. -/
def readFields : Nat → List (Text × Json) → List CodePoint →
    Except ReadFault (List (Text × Json) × List CodePoint)
  | 0, _, _ => .error .malformed
  | fuel + 1, fields, codes =>
      match codes with
      | .char '"' :: rest => do
          let (key, rest) ← orMalformed (readString rest)
          match skipSpace rest with
          | .char ':' :: rest =>
              let (value, rest) ← readValue fuel (skipSpace rest)
              let fields := put fields (.ofList key) value
              match skipSpace rest with
              | .char '}' :: after => return (fields, after)
              | .char ',' :: rest => readFields fuel fields (skipSpace rest)
              | _ => throw .malformed
          | _ => throw .malformed
      | _ => .error .malformed

end

/-- Read a whole text as one value. -/
def read (text : Text) : Except ReadFault Json := do
  let (value, rest) ← readValue (text.length + 1) (skipSpace text.toList)
  if (skipSpace rest).isEmpty then
    return value
  else
    throw .malformed

end LinkedQuery.Json
