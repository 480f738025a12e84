import Settings.Number.Binary64

/-!
# Dates and times of day

A moment is a number of milliseconds since the start of 1970 in universal time.  Its date
is found by eras of 400 years, which all have the same number of days; a year is counted
from March, so that the day a leap year adds is its last.  Clocks count the seconds of a
moment in a floating point number.

## Main definitions

* `Date.ofDays` — the date of a day.
* `Moment.seconds`, `Moment.micros` — a moment in seconds, and in rounded microseconds.
* `MomentFault` — why a moment cannot be written.
* `Moment.logText`, `Moment.isoText` — the two ways in which a moment is written.
-/

namespace Settings.Log

open Number

/-- A date of the Gregorian calendar. -/
structure Date where
  /-- The year. -/
  year : Int
  /-- The month, from 1. -/
  month : Nat
  /-- The day of the month, from 1. -/
  day : Nat
  deriving DecidableEq, Repr, Inhabited

/-- The days of 400 years. -/
def eraDays : Int := 146097

/-- The year within an era, counted from March, of a day of the era. -/
def yearOfEra (day : Nat) : Nat := (day - day / 1460 + day / 36524 - day / 146096) / 365

/-- The date of a day, counted from the first of January 1970. -/
def Date.ofDays (days : Int) : Date :=
  let shifted := days + 719468
  let era := shifted.fdiv eraDays
  let dayOfEra := (shifted.fmod eraDays).toNat
  let year := yearOfEra dayOfEra
  let dayOfYear := dayOfEra - (365 * year + year / 4 - year / 100)
  let month := (5 * dayOfYear + 2) / 153
  let day := dayOfYear - (153 * month + 2) / 5 + 1
  let january := 10 ≤ month
  ⟨year + era * 400 + (if january then 1 else 0), if january then month - 9 else month + 3, day⟩

/-! ### Moments -/

/-- A moment, in milliseconds since the start of 1970. -/
structure Moment where
  /-- The milliseconds. -/
  millis : Int
  deriving DecidableEq, Repr, Inhabited

/-- Why a moment cannot be written. -/
inductive MomentFault where
  /-- There is no date in that year. -/
  | yearOutOfRange (year : Int)
  /-- The year is no integer of 32 bits, counted from 1900. -/
  | yearTooLong
  /-- The seconds are no integer of 64 bits. -/
  | secondsTooLong
  deriving DecidableEq, Repr, Inhabited

/-- The wording of a fault. -/
def MomentFault.message : MomentFault → String
  | .yearOutOfRange year => s!"year {numeralInt year} is out of range"
  | .yearTooLong => "[Errno 75] Value too large for defined data type"
  | .secondsTooLong => "timestamp out of range for platform time_t"

/-- The seconds of a day. -/
def daySeconds : Int := 86400

/-- The microseconds of a second. -/
def secondMicros : Nat := 1000000

/-- The date of a second. -/
def Date.ofSecond (second : Int) : Except MomentFault Date :=
  let d := Date.ofDays (second.fdiv daySeconds)
  if second < -9223372036854775808 ∨ 9223372036854775808 < second then .error .secondsTooLong
  else if d.year - 1900 < -2147483648 ∨ 2147483647 < d.year - 1900 then .error .yearTooLong
  else .ok d

/-- The date of a second in the years that are written with four digits. -/
def Date.ofSecond4 (second : Int) : Except MomentFault Date :=
  match Date.ofSecond second with
  | .error fault => .error fault
  | .ok d => if d.year < 1 ∨ 9999 < d.year then .error (.yearOutOfRange d.year) else .ok d

/-- A date with dashes, given the text of its year. -/
def Date.text (d : Date) (year : List Char) : String :=
  String.ofList (year ++ '-' :: padded 2 d.month ++ '-' :: padded 2 d.day)

/-- The time of day of a second. -/
def clockText (second : Int) : String :=
  let s := (second.fmod daySeconds).toNat
  String.ofList
    (padded 2 (s / 3600) ++ ':' :: padded 2 (s / 60 % 60) ++ ':' :: padded 2 (s % 60))

namespace Moment

/-- The seconds since the start of 1970. -/
def seconds (t : Moment) : Binary64 := .ofDecimal (decide (t.millis < 0)) t.millis.natAbs (-3)

/-- The milliseconds since the last full second. -/
def fraction (t : Moment) : Nat := (t.millis.fmod 1000).toNat

/-- The microseconds nearest to what the seconds have after the point, without a sign; the
product is rounded before it is made an integer. -/
def roundedFraction (t : Moment) : Nat :=
  let f := t.seconds.fraction
  (Binary64.ofRatio false ⟨f.num * secondMicros, f.den⟩).size.round

/-- The full seconds and the microseconds of a moment. -/
def micros (t : Moment) : Int × Nat :=
  let whole := t.seconds.truncate
  let part := t.roundedFraction
  if t.seconds.isNegative && part != 0 then (whole - 1, secondMicros - part)
  else if part = secondMicros then (whole + 1, 0)
  else (whole, part)

/-- Date, time and milliseconds, as lines of a log show them. -/
def logText (t : Moment) : Except MomentFault String :=
  let second := t.seconds.floor
  (Date.ofSecond second).map fun d =>
    d.text (decimalInt d.year) ++ " " ++ clockText second ++ ","
      ++ String.ofList (padded 3 t.fraction)

/-- Date and time with microseconds, which are left out at a full second.  The day before has
to have a date as well. -/
def isoText (t : Moment) : Except MomentFault String := do
  let (second, micros) := t.micros
  let d ← Date.ofSecond4 second
  let _ ← Date.ofSecond4 (second - daySeconds)
  let part := if micros = 0 then "" else "." ++ String.ofList (padded 6 micros)
  return d.text (padded 4 d.year.toNat) ++ "T" ++ clockText second ++ part

end Moment

end Settings.Log
