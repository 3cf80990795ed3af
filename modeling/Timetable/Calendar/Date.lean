import Timetable.Failure
import Timetable.Part

/-! Dates of the Gregorian calendar, extended back to year 1 and ending with year 9999.

A date is its number in the sequence of days, in which 1 January of year 1, a Monday, is the first.
Year, month, weekday and week are computed from that number.
-/

set_option autoImplicit false

namespace Timetable

def isLeap (year : Nat) : Bool :=
  year % 4 == 0 && (year % 100 != 0 || year % 400 == 0)

def daysBeforeYear (year : Nat) : Nat :=
  let past := year - 1
  past * 365 + past / 4 - past / 100 + past / 400

/-- The number of days of a year before the first of a month; the month after the last counts the
whole year. -/
def daysBeforeMonth (leap : Bool) (month : Nat) : Nat :=
  let common :=
    match month with
    | 0 | 1 => 0
    | 2 => 31
    | 3 => 59
    | 4 => 90
    | 5 => 120
    | 6 => 151
    | 7 => 181
    | 8 => 212
    | 9 => 243
    | 10 => 273
    | 11 => 304
    | 12 => 334
    | _ => 365
  if leap && 2 < month then common + 1 else common

def daysInMonth (leap : Bool) (month : Nat) : Nat :=
  daysBeforeMonth leap (month + 1) - daysBeforeMonth leap month

def dayNumber (year month day : Nat) : Nat :=
  daysBeforeYear year + daysBeforeMonth (isLeap year) month + day

/-- The year that holds a day. The mean length of a year gives a guess that misses by one at
most. -/
def yearOfDay (number : Nat) : Nat :=
  -- There are 146097 days in 400 years.
  let guess := (number - 1) * 400 / 146097 + 1
  if number ≤ daysBeforeYear guess then guess - 1
  else if daysBeforeYear (guess + 1) < number then guess + 1
  else guess

def monthUpTo (leap : Bool) (day : Nat) : Nat → Nat
  | 0 => 1
  | month + 1 =>
    if daysBeforeMonth leap (month + 1) < day then month + 1 else monthUpTo leap day month

def lastDayNumber : Nat := 3652059

/-- A day from 0001-01-01 to 9999-12-31. -/
structure Date where
  number : Nat
  positive : 1 ≤ number
  bounded : number ≤ lastDayNumber
  deriving DecidableEq, Repr

namespace Date

instance : Inhabited Date := ⟨⟨1, by decide, by decide⟩⟩

def ofNumber? (number : Nat) : Option Date :=
  if within : 1 ≤ number ∧ number ≤ lastDayNumber then some ⟨number, within.1, within.2⟩ else none

def ofCivil? (year month day : Nat) : Option Date :=
  if 1 ≤ year ∧ year ≤ 9999 ∧ 1 ≤ month ∧ month ≤ 12 ∧ 1 ≤ day ∧
      day ≤ daysInMonth (isLeap year) month then
    ofNumber? (dayNumber year month day)
  else none

def year (date : Date) : Nat :=
  yearOfDay date.number

def dayOfYear (date : Date) : Nat :=
  date.number - daysBeforeYear date.year

def month (date : Date) : Nat :=
  monthUpTo (isLeap date.year) date.dayOfYear 12

def day (date : Date) : Nat :=
  date.dayOfYear - daysBeforeMonth (isLeap date.year) date.month

/-- The weekday, from one for Sunday to seven for Saturday. -/
def weekday (date : Date) : Nat :=
  date.number % 7 + 1

/-- The date `days` later; leaving the calendar is a fault. -/
def plusDays (date : Date) (days : Nat) : Except Fault Date :=
  match ofNumber? (date.number + days) with
  | some later => .ok later
  | none => .error .outsideCalendar

end Date

/-- The number of the Monday that begins the first week of a year: the week that holds the first
Thursday. -/
def firstMonday (year : Nat) : Nat :=
  let newYear := daysBeforeYear year + 1
  -- The first day of the calendar is a Monday.
  let pastMonday := (newYear + 6) % 7
  if 3 < pastMonday then newYear + 7 - pastMonday else newYear - pastMonday

/-- The number of the week of the year. A week from Monday to Sunday belongs to one year alone, so
that the days around New Year may belong to the last week of the year before or to the first of the
year after. -/
def Date.weekOfYear (date : Date) : Nat :=
  let year := date.year
  if date.number < firstMonday year then (date.number - firstMonday (year - 1)) / 7 + 1
  else if firstMonday (year + 1) ≤ date.number then 1
  else (date.number - firstMonday year) / 7 + 1

def Date.part? (date : Date) : Part → Option Int
  | .dayOfMonth => some date.day
  | .month => some date.month
  | .weekday => some date.weekday
  | .dayOfYear => some date.dayOfYear
  | .weekOfYear => some date.weekOfYear
  | .hour | .minute | .second => none

def Date.partNamed (date : Date) (name : String) : Except Fault Int :=
  match (Part.ofName? name).bind date.part? with
  | some value => .ok value
  | none => .error (.notCalendarPart name)

end Timetable
