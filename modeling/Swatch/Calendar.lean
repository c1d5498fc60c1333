import Swatch.Numeral

/-!
Dates and moments of the proleptic Gregorian calendar, years one to 9999. A moment may carry the
offset of its clock from universal time, which has to be less than a day.
-/
namespace Swatch

/-- A day of the calendar. -/
structure Date where
  year : Nat
  month : Nat
  day : Nat
  deriving DecidableEq

/-- A point on a clock on a given day, with the clock's offset in minutes when one was stated. -/
structure Moment where
  date : Date
  hour : Nat
  minute : Nat
  second : Nat
  microsecond : Nat
  offset : Option Int
  deriving DecidableEq

/-- Why numbers name no date or no moment. -/
inductive CalendarError where
  | year (found : Nat)
  | month
  | day
  | hour
  | minute
  | second
  | offset (minutes : Int)
  deriving DecidableEq

namespace Date

/-- Whether a year has a twenty-ninth of February. -/
def isLeap (year : Nat) : Bool := year % 4 == 0 && (year % 100 != 0 || year % 400 == 0)

/-- The number of days in a month. -/
def daysIn (year month : Nat) : Nat :=
  if month = 2 then (if isLeap year then 29 else 28)
  else if month ∈ [4, 6, 9, 11] then 30
  else 31

/-- The date with the given numbers, if there is one. -/
def make (year month day : Nat) : Except CalendarError Date :=
  if year < 1 ∨ 9999 < year then .error (.year year)
  else if month < 1 ∨ 12 < month then .error .month
  else if day < 1 ∨ daysIn year month < day then .error .day
  else .ok ⟨year, month, day⟩

/-- A date as messages show it. -/
def display (d : Date) : Text :=
  "datetime.date(".toList ++
    Text.joined ", ".toList ([d.year, d.month, d.day].map fun n : Nat => decimalText n) ++ [')']

end Date

namespace Moment

/-- A span of minutes as messages show it: whole days, rounded down, and the seconds left. -/
def displaySpan (minutes : Int) : Text :=
  let days := minutes / 1440
  let seconds := minutes % 1440 * 60
  let part (name : String) (n : Int) : List Text :=
    if n = 0 then [] else [name.toList ++ '=' :: decimalText n]
  let parts := part "days" days ++ part "seconds" seconds
  "datetime.timedelta(".toList ++
    (if parts.isEmpty then ['0'] else Text.joined ", ".toList parts) ++ [')']

/-- The moment with the given numbers, if there is one. The offset is judged before the rest. -/
def make (year month day hour minute second microsecond : Nat) (offset : Option Int) :
    Except CalendarError Moment := do
  if let some minutes := offset then
    if 1440 ≤ minutes.natAbs then throw (.offset minutes)
  let date ← Date.make year month day
  if 23 < hour then throw .hour
  if 59 < minute then throw .minute
  if 59 < second then throw .second
  return ⟨date, hour, minute, second, microsecond, offset⟩

/-- The number of days from the first day of the year one to a date. -/
def dayNumber (d : Date) : Nat :=
  let years := d.year - 1
  let months := (List.range (d.month - 1)).foldl (fun days m => days + Date.daysIn d.year (m + 1)) 0
  365 * years + years / 4 - years / 100 + years / 400 + months + (d.day - 1)

/-- The microseconds that a clock which shows a moment has counted since the year one. -/
def microseconds (m : Moment) : Int :=
  let minutes := (dayNumber m.date * 24 + m.hour) * 60 + m.minute
  ((minutes * 60 + m.second) * 1000000 + m.microsecond : Nat)

/-- The point in time that a moment is, in microseconds of universal time. A moment without an
offset is on a clock of its own, and what counts is the time that this clock shows. -/
def instant (m : Moment) : Int := m.microseconds - m.offset.getD 0 * 60000000

/-- A moment as messages show it. Seconds and microseconds of zero are left out at the end. -/
def display (m : Moment) : Text :=
  let small := if m.microsecond ≠ 0 then [m.second, m.microsecond]
    else if m.second ≠ 0 then [m.second] else []
  let numbers := [m.date.year, m.date.month, m.date.day, m.hour, m.minute] ++ small
  let zone : List Text := match m.offset with
    | none => []
    | some 0 => ["tzinfo=datetime.timezone.utc".toList]
    | some minutes => ["tzinfo=datetime.timezone(".toList ++ displaySpan minutes ++ [')']]
  "datetime.datetime(".toList ++
    Text.joined ", ".toList (numbers.map (fun n : Nat => decimalText n) ++ zone) ++ [')']

end Moment

/-- The wording of a refused date or moment. -/
def CalendarError.message : CalendarError → Text
  | .year found => "year ".toList ++ decimalText found ++ " is out of range".toList
  | .month => "month must be in 1..12".toList
  | .day => "day is out of range for month".toList
  | .hour => "hour must be in 0..23".toList
  | .minute => "minute must be in 0..59".toList
  | .second => "second must be in 0..59".toList
  | .offset minutes =>
    "offset must be a timedelta strictly between -timedelta(hours=24) and ".toList ++
      "timedelta(hours=24), not ".toList ++ Moment.displaySpan minutes ++ ['.']

end Swatch
