import Timetable.Text.Blank
import Timetable.Text.Digit
import Timetable.Text.Pieces

/-! Integers as a user writes them. -/

set_option autoImplicit false

namespace Timetable.Text

/-- The number that digits spell, between which single underscores may stand. These do not count
as digits. -/
def groupedNumber? (text : List Char) : Option Nat :=
  let groups := pieces '_' text
  if groups.all (allAre isDigit) then (number groups.flatten).toOption else none

def isMargin (c : Char) : Bool :=
  isBlank c && !(0x1c ≤ c.toNat && c.toNat ≤ 0x1f)

def integer? (text : List Char) : Option Int :=
  match trim isMargin text with
  | '-' :: digits => (groupedNumber? digits).map fun n => -(n : Int)
  | '+' :: digits => (groupedNumber? digits).map fun n => (n : Int)
  | digits => (groupedNumber? digits).map fun n => (n : Int)

end Timetable.Text
