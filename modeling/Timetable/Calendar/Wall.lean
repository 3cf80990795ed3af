import Timetable.Calendar.Date
import Timetable.Number.Power
import Timetable.Text.Digit

/-! What a calendar and a clock on a wall show: a date and a time of day, without a zone. -/

set_option autoImplicit false

namespace Timetable

def secondMicros : Nat := 1000000

def dayMicros : Nat := 86400 * secondMicros

def calendarMicros : Nat := lastDayNumber * dayMicros

/-- A reading, in microseconds since 0001-01-01T00:00:00. -/
structure Wall where
  micros : Nat
  bounded : micros < calendarMicros
  deriving DecidableEq, Repr

namespace Wall

instance : Inhabited Wall := ⟨⟨0, by decide⟩⟩

def ofMicros (micros : Int) : Except Fault Wall :=
  if within : 0 ≤ micros ∧ micros < (calendarMicros : Int) then
    .ok ⟨micros.toNat, by omega⟩
  else .error .outsideCalendar

def plus (wall : Wall) (span : Int) : Except Fault Wall :=
  let days := span / dayMicros
  if days < -2147483648 ∨ 2147483648 ≤ days then .error .spanTooWide
  else if days < -999999999 ∨ 999999999 < days then .error (.spanAbove days)
  else ofMicros (wall.micros + span)

def onDate (date : Date) (micros : Nat) (within : micros < dayMicros) : Wall where
  micros := (date.number - 1) * dayMicros + micros
  bounded := by
    have first := date.positive
    have last := date.bounded
    simp only [calendarMicros, lastDayNumber, dayMicros, secondMicros] at *
    omega

def date (wall : Wall) : Date where
  number := wall.micros / dayMicros + 1
  positive := Nat.le_add_left 1 _
  bounded := by
    have last := wall.bounded
    simp only [calendarMicros, lastDayNumber, dayMicros, secondMicros] at *
    omega

def timeOfDay (wall : Wall) : Nat :=
  wall.micros % dayMicros

def hour (wall : Wall) : Nat :=
  wall.timeOfDay / secondMicros / 3600

def minute (wall : Wall) : Nat :=
  wall.timeOfDay / secondMicros / 60 % 60

def second (wall : Wall) : Nat :=
  wall.timeOfDay / secondMicros % 60

def microsecond (wall : Wall) : Nat :=
  wall.timeOfDay % secondMicros

/-- A component of a time that no 32-bit integer holds is a fault of its own, and so is one that no
64-bit integer holds. -/
def checkWidth (component : Int) : Except Fault Unit :=
  if 9223372036854775808 ≤ component ∨ component < -9223372036854775808 then
    .error .componentTooWide
  else if 2147483648 ≤ component then .error .componentAbove
  else if component < -2147483648 then .error .componentBelow
  else .ok ()

def atTime (date : Date) (hour minute second : Int) : Except Fault Wall := do
  checkWidth hour
  checkWidth minute
  checkWidth second
  if hoursFit : 0 ≤ hour ∧ hour < 24 then
    if minutesFit : 0 ≤ minute ∧ minute < 60 then
      if secondsFit : 0 ≤ second ∧ second < 60 then
        return onDate date (((hour.toNat * 60 + minute.toNat) * 60 + second.toNat) * secondMicros)
          (by simp only [dayMicros, secondMicros]; omega)
      else throw .secondOutside
    else throw .minuteOutside
  else throw .hourOutside

def dateText (date : Date) : String :=
  Text.padded 4 date.year ++ "-" ++ Text.padded 2 date.month ++ "-" ++ Text.padded 2 date.day

/-- A reading in the form `YYYY-MM-DDTHH:MM:SS`, with `separator` for the `T`; microseconds follow a
point unless there are none. -/
def text (separator : String) (wall : Wall) : String :=
  dateText wall.date ++ separator ++ Text.padded 2 wall.hour ++ ":" ++ Text.padded 2 wall.minute ++
    ":" ++ Text.padded 2 wall.second ++
    (if wall.microsecond = 0 then "" else "." ++ Text.padded 6 wall.microsecond)

end Wall

def Date.ofText? (text : List Char) : Option Date :=
  match Text.plainNumber? (text.take 4), text.drop 4 with
  | some year, '-' :: rest =>
    match Text.plainNumber? (rest.take 2), rest.drop 2 with
    | some month, '-' :: rest => (Text.plainNumber? rest).bind (Date.ofCivil? year month)
    | _, _ => none
  | _, _ => none

def millionths? (text : List Char) : Option Nat :=
  if text.length ≤ 6 then
    (Text.plainNumber? text).map fun n => n * tenTo (6 - text.length)
  else none

/-- The reading that a text of the form `YYYY-MM-DDTHH:MM:SS` or `YYYY-MM-DDTHH:MM:SS.ffffff`
shows. -/
def Wall.ofText? (text : List Char) : Option Wall := do
  let date ← Date.ofText? (text.take 10)
  let hour ← Text.plainNumber? ((text.drop 11).take 2)
  let minute ← Text.plainNumber? ((text.drop 14).take 2)
  let second ← Text.plainNumber? ((text.drop 17).take 2)
  let fraction ←
    match text.drop 19 with
    | [] => some 0
    | '.' :: digits => millionths? digits
    | _ => none
  let time := ((hour * 60 + minute) * 60 + second) * secondMicros + fraction
  if within : time < dayMicros then some (Wall.onDate date time within) else none

end Timetable
