import LinkedQuery.Text.Digit
import LinkedQuery.Value

/-!
Contract: dates and date-times as YAML scalars.

Owns:
- their form: a date alone, or with a time, a fraction and a zone;
- the value of such a scalar.

Does not own: which dates there are.
-/

namespace LinkedQuery.Yaml

/-- The parts of a time of day, with the minutes that its zone is ahead. -/
structure WrittenTime where
  hour : Nat
  minute : Nat
  second : Nat
  microsecond : Nat
  offset : Option Int
deriving Repr

/-- The parts of a date with an optional time. -/
structure WrittenTimestamp where
  year : Nat
  month : Nat
  day : Nat
  time : Option WrittenTime
deriving Repr

/-- A number of exactly so many digits and the text after it. -/
def fixedNumber? (width : Nat) (codes : List CodePoint) : Option (Nat × List CodePoint) :=
  let digits := codes.take width
  if digits.length = width && digits.all CodePoint.isDigit then
    some (Text.digitsValue digits, codes.drop width)
  else
    none

/-- A number of one or two digits and the text after it. -/
def shortNumber? (codes : List CodePoint) : Option (Nat × List CodePoint) :=
  (fixedNumber? 2 codes).or (fixedNumber? 1 codes)

/-- The text after a given code point. -/
def after? (expected : CodePoint) : List CodePoint → Option (List CodePoint)
  | [] => none
  | code :: rest => if code = expected then some rest else none

/-- Whether a code point is a space or a tab. -/
def isGap (code : CodePoint) : Bool :=
  code == ' ' || code == '\t'

/-- The microseconds of a fraction, of which six digits count, and the text
after it; a missing fraction is zero. -/
def fraction (codes : List CodePoint) : Nat × List CodePoint :=
  match codes with
  | .char '.' :: rest =>
      let digits := (rest.takeWhile CodePoint.isDigit).take 6
      (Text.digitsValue (digits ++ List.replicate (6 - digits.length) (.char '0')),
       rest.dropWhile CodePoint.isDigit)
  | _ => (0, codes)

/-- A zone that takes up the whole text: nothing, the letter Z, or a signed
offset after optional blanks. -/
def zone? (codes : List CodePoint) : Option (Option Int) :=
  let signed (sign : Int) (rest : List CodePoint) : Option (Option Int) := do
    let (hours, rest) ← shortNumber? rest
    match rest with
    | [] => some (some (sign * (hours * 60)))
    | .char ':' :: rest => do
        let (minutes, rest) ← fixedNumber? 2 rest
        if rest.isEmpty then some (some (sign * (hours * 60 + minutes))) else none
    | _ => none
  if codes.isEmpty then
    some none
  else
    match codes.dropWhile isGap with
    | [.char 'Z'] => some (some 0)
    | .char '+' :: rest => signed 1 rest
    | .char '-' :: rest => signed (-1) rest
    | _ => none

/-- The text after what divides a date from a time. -/
def afterDivider? : List CodePoint → Option (List CodePoint)
  | .char 'T' :: rest => some rest
  | .char 't' :: rest => some rest
  | .char ' ' :: rest => some (rest.dropWhile isGap)
  | .char '\t' :: rest => some (rest.dropWhile isGap)
  | _ => none

/-- A time of day that takes up the whole text. -/
def time? (codes : List CodePoint) : Option WrittenTime := do
  let (hour, rest) ← shortNumber? codes
  let (minute, rest) ← fixedNumber? 2 (← after? ':' rest)
  let (second, rest) ← fixedNumber? 2 (← after? ':' rest)
  let (microsecond, rest) := fraction rest
  let offset ← zone? rest
  return ⟨hour, minute, second, microsecond, offset⟩

/-- The parts of a text that has the form of a date with an optional time. -/
def timestamp? (codes : List CodePoint) : Option WrittenTimestamp := do
  let (year, rest) ← fixedNumber? 4 codes
  let (month, rest) ← shortNumber? (← after? '-' rest)
  let (day, rest) ← shortNumber? (← after? '-' rest)
  if rest.isEmpty then
    return ⟨year, month, day, none⟩
  else
    return ⟨year, month, day, ← time? (← afterDivider? rest)⟩

/-- Whether an unmarked scalar is a timestamp: a date without a time has to
show two digits for the month and the day. -/
def isTimestamp (codes : List CodePoint) : Bool :=
  match timestamp? codes with
  | some written => written.time.isSome || codes.length == 10
  | none => false

/-- The parts of a text that is tagged as a timestamp; a line break at its end
does not count. -/
def taggedTimestamp? (codes : List CodePoint) : Option WrittenTimestamp :=
  (timestamp? codes).or
    (if codes.getLast? = some (.char '\n') then timestamp? codes.dropLast else none)

/-- The date or date-time of the parts. -/
def WrittenTimestamp.scalar (written : WrittenTimestamp) : Except CalendarFault Scalar :=
  match written.time with
  | none => (Date.ofParts written.year written.month written.day).map Scalar.date
  | some time =>
      (DateTime.ofParts written.year written.month written.day time.hour time.minute time.second
        time.microsecond time.offset).map Scalar.dateTime

end LinkedQuery.Yaml
