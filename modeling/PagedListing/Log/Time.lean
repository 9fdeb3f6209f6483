import PagedListing.Failure
import PagedListing.Number.Double

set_option autoImplicit false

/-!
# Times of messages

A time is a count of microseconds since 1970 that has been kept as a double of seconds.
It is written as date and time of day, with a fraction unless that is zero.
-/

namespace PagedListing.Log

open PagedListing.Number

structure Date where
  year : Int
  month : Int
  day : Int
deriving DecidableEq, Repr

namespace Date

/-- The date a number of days after 1970-01-01. Years are counted from March, which puts
the leap day at their end, in eras of 400 years. -/
def ofDays (days : Int) : Date :=
  let shifted := days + 719468
  let era := shifted.fdiv 146097
  let dayOfEra := shifted - era * 146097
  let yearOfEra := (dayOfEra - dayOfEra / 1460 + dayOfEra / 36524 - dayOfEra / 146096) / 365
  let dayOfYear := dayOfEra - (365 * yearOfEra + yearOfEra / 4 - yearOfEra / 100)
  let monthFromMarch := (5 * dayOfYear + 2) / 153
  let day := dayOfYear - (153 * monthFromMarch + 2) / 5 + 1
  let month := if monthFromMarch < 10 then monthFromMarch + 3 else monthFromMarch - 9
  ⟨yearOfEra + era * 400 + (if month ≤ 2 then 1 else 0), month, day⟩

end Date

/-- The nearest double of a number of microseconds in seconds. -/
def secondsOf? (microseconds : Int) : Option Double :=
  Double.ofRatio? (microseconds < 0) microseconds.natAbs 1000000

/-- The microseconds in the fraction of a double, whose product is rounded to a double
and then to an integer. -/
def fractionOf (seconds : Double) : Nat :=
  let (numerator, denominator) := seconds.ratio
  match Double.ofRatio? false (1000000 * (numerator % denominator)) denominator with
  | some product => divRoundEven product.ratio.1 product.ratio.2
  | none => 0

def microsecondsOf (seconds : Double) : Int :=
  let (numerator, denominator) := seconds.ratio
  let magnitude := 1000000 * (numerator / denominator) + fractionOf seconds
  if seconds.negative then -(magnitude : Int) else magnitude

def padded (width : Nat) (value : Int) : String :=
  let digits := value.natAbs.repr
  String.ofList (List.replicate (width - digits.length) '0') ++ digits

inductive TimeFault where
  | notFinite
  | beyondClock
  | beyondCalendar
  | yearOutOfRange (year : Int)
deriving DecidableEq, Repr

namespace TimeFault

def message : TimeFault → String
  | .notFinite => "integer division result too large for a float"
  | .beyondClock => "timestamp out of range for platform time_t"
  | .beyondCalendar => "[Errno 75] Value too large for defined data type"
  | .yearOutOfRange year => "year " ++ numeral year ++ " is out of range"

def kind : TimeFault → FailureKind
  | .notFinite | .beyondClock => .overflow
  | .beyondCalendar => .system
  | .yearOutOfRange _ => .invalidValue

end TimeFault

/-- Whether the clock reaches a second: it counts them in 64 bits. -/
def isClockSecond (second : Int) : Bool := -Nat.pow 2 63 ≤ second && second < Nat.pow 2 63

/-- Whether the calendar reaches a year: it counts them from 1900 in 32 bits. -/
def isCalendarYear (year : Int) : Bool :=
  -Nat.pow 2 31 ≤ year - 1900 && year - 1900 < Nat.pow 2 31

/-- Date and time of day, in universal time. A year that is out of range is reported as 32
bits show it. -/
def timeText (microseconds : Int) : Except TimeFault String :=
  let day := microseconds.fdiv 86400000000
  let inDay := microseconds - day * 86400000000
  let second := inDay / 1000000
  let fraction := inDay % 1000000
  let date := Date.ofDays day
  if 1 ≤ date.year ∧ date.year ≤ 9999 then
    .ok <| padded 4 date.year ++ "-" ++ padded 2 date.month ++ "-" ++ padded 2 date.day ++
      "T" ++ padded 2 (second / 3600) ++ ":" ++ padded 2 (second / 60 % 60) ++ ":" ++
      padded 2 (second % 60) ++
      (if fraction = 0 then "" else "." ++ padded 6 fraction) ++ "+00:00"
  else if isCalendarYear date.year then .error (.yearOutOfRange (date.year.bmod (Nat.pow 2 32)))
  else .error .beyondCalendar

def writtenAt (microseconds : Int) : Except TimeFault String :=
  match secondsOf? microseconds with
  | none => .error .notFinite
  | some seconds =>
      let whole := microsecondsOf seconds
      if isClockSecond (whole.fdiv 1000000) then timeText whole else .error .beyondClock

end PagedListing.Log
