/-!
Contract: calendar dates and times of day as document data.

Owns:
- dates of the Gregorian calendar and date-times with an optional offset;
- their validation, one fault after the other;
- their text, their literal, and the instant of a date-time.

Does not own: the patterns by which a document writes them.
-/

namespace LinkedQuery

/-- A calendar date. -/
structure Date where
  year : Nat
  month : Nat
  day : Nat
deriving Repr, DecidableEq

/-- A date with a time of day and the minutes it is ahead of universal time, if
that is known. -/
structure DateTime where
  date : Date
  hour : Nat
  minute : Nat
  second : Nat
  microsecond : Nat
  offset : Option Int
deriving Repr, DecidableEq

/-- Why some numbers are no date or time. -/
inductive CalendarFault
  | year (value : Nat)
  | month
  | day
  | hour
  | minute
  | second
  | offset (minutes : Int)
deriving Repr, DecidableEq

namespace Date

/-- Whether a year has a twenty-ninth of February. -/
def isLeap (year : Nat) : Bool :=
  year % 4 == 0 && (year % 100 != 0 || year % 400 == 0)

/-- The number of days of a month. -/
def daysIn (year month : Nat) : Nat :=
  if month = 2 then
    if isLeap year then 29 else 28
  else if month = 4 || month = 6 || month = 9 || month = 11 then
    30
  else
    31

/-- A date, if the year, the month and the day are in range. -/
def ofParts (year month day : Nat) : Except CalendarFault Date :=
  if year < 1 || 9999 < year then
    .error (.year year)
  else if month < 1 || 12 < month then
    .error .month
  else if day < 1 || daysIn year month < day then
    .error .day
  else
    .ok ⟨year, month, day⟩

/-- A number with zeros in front of it up to a width. -/
def padded (width value : Nat) : String :=
  let digits := Nat.toDigits 10 value
  String.ofList (List.replicate (width - digits.length) '0' ++ digits)

/-- A date as year, month and day. -/
def text (date : Date) : String :=
  padded 4 date.year ++ "-" ++ padded 2 date.month ++ "-" ++ padded 2 date.day

/-- A date as a literal. -/
def literal (date : Date) : String :=
  "datetime.date(" ++ toString date.year ++ ", " ++ toString date.month ++ ", " ++
    toString date.day ++ ")"

/-- The number of days up to a date, counted from a fixed day. -/
def dayNumber (date : Date) : Nat :=
  let before := date.year - 1
  let months := (List.range (date.month - 1)).foldl
    (fun total month => total + daysIn date.year (month + 1)) 0
  before * 365 + before / 4 - before / 100 + before / 400 + months + date.day

end Date

/-- The literal of a length of time as days and the seconds of the last day,
those that are not zero. -/
def durationLiteral (minutes : Int) : String :=
  let days := minutes.fdiv 1440
  let seconds := minutes.fmod 1440 * 60
  let parts :=
    (if days = 0 then [] else ["days=" ++ toString days]) ++
      (if seconds = 0 then [] else ["seconds=" ++ toString seconds])
  "datetime.timedelta(" ++ (if parts.isEmpty then "0" else String.intercalate ", " parts) ++ ")"

namespace DateTime

/-- A date-time, if all its parts are in range; the offset is looked at
first. -/
def ofParts
    (year month day hour minute second microsecond : Nat)
    (offset : Option Int) :
    Except CalendarFault DateTime := do
  if let some minutes := offset then
    if minutes ≤ -1440 || 1440 ≤ minutes then
      throw (.offset minutes)
  let date ← Date.ofParts year month day
  if 23 < hour then
    throw .hour
  if 59 < minute then
    throw .minute
  if 59 < second then
    throw .second
  return ⟨date, hour, minute, second, microsecond, offset⟩

/-- An offset as a sign, hours and minutes. -/
def offsetText (minutes : Int) : String :=
  (if minutes < 0 then "-" else "+") ++ Date.padded 2 (minutes.natAbs / 60) ++ ":" ++
    Date.padded 2 (minutes.natAbs % 60)

/-- A date-time; the fraction is shown when it is not zero, the offset when it
is known. -/
def text (time : DateTime) : String :=
  time.date.text ++ " " ++ Date.padded 2 time.hour ++ ":" ++
    Date.padded 2 time.minute ++ ":" ++ Date.padded 2 time.second ++
    (if time.microsecond = 0 then "" else "." ++ Date.padded 6 time.microsecond) ++
    (match time.offset with
      | some minutes => offsetText minutes
      | none => "")

/-- An offset as a literal. -/
def offsetLiteral (minutes : Int) : String :=
  if minutes = 0 then
    "datetime.timezone.utc"
  else
    "datetime.timezone(" ++ durationLiteral minutes ++ ")"

/-- A date-time as a literal; seconds and microseconds are left out as long as
nothing but zeros follows. -/
def literal (time : DateTime) : String :=
  let parts := [time.date.year, time.date.month, time.date.day, time.hour, time.minute] ++
    (if time.second = 0 && time.microsecond = 0 then [] else [time.second]) ++
    (if time.microsecond = 0 then [] else [time.microsecond])
  "datetime.datetime(" ++ String.intercalate ", " (parts.map toString) ++
    (match time.offset with
      | some minutes => ", tzinfo=" ++ offsetLiteral minutes
      | none => "") ++ ")"

/-- Microseconds up to a date-time, in universal time when the offset is
known. -/
def instant (time : DateTime) : Int :=
  let minutes : Int := (time.date.dayNumber * 24 + time.hour) * 60 + time.minute
  ((minutes - time.offset.getD 0) * 60 + time.second) * 1000000 + time.microsecond

end DateTime

namespace CalendarFault

/-- The wording of a fault. -/
def message : CalendarFault → String
  | .year value => "year " ++ toString value ++ " is out of range"
  | .month => "month must be in 1..12"
  | .day => "day is out of range for month"
  | .hour => "hour must be in 0..23"
  | .minute => "minute must be in 0..59"
  | .second => "second must be in 0..59"
  | .offset minutes =>
      "offset must be a timedelta strictly between -timedelta(hours=24) and " ++
        "timedelta(hours=24), not " ++ durationLiteral minutes ++ "."

end CalendarFault

end LinkedQuery
