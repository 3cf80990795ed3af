import Timetable.Text.Digit

/-! The eight parts of a date and time of day that a rule speaks of, and their domains. -/

set_option autoImplicit false

namespace Timetable

inductive Part where
  | dayOfMonth
  | month
  | weekday
  | dayOfYear
  | weekOfYear
  | hour
  | minute
  | second
  deriving DecidableEq, Repr, Inhabited

structure Domain where
  low : Int
  high : Int
  deriving DecidableEq, Repr

def Domain.contains (domain : Domain) (value : Int) : Bool :=
  decide (domain.low ≤ value) && decide (value ≤ domain.high)

namespace Part

def ofDate : List Part :=
  [.dayOfMonth, .month, .weekday, .dayOfYear, .weekOfYear]

def ofTime : List Part :=
  [.hour, .minute, .second]

def all : List Part :=
  ofDate ++ ofTime

def name : Part → String
  | .dayOfMonth => "day_of_month"
  | .month => "month"
  | .weekday => "weekday"
  | .dayOfYear => "day_of_year"
  | .weekOfYear => "week_of_year"
  | .hour => "hour"
  | .minute => "minute"
  | .second => "second"

def ofName? (name : String) : Option Part :=
  all.find? fun part => decide (part.name = name)

/-- Sunday is the first weekday, and a week of the year is one of at most 53. -/
def domain : Part → Domain
  | .dayOfMonth => ⟨1, 31⟩
  | .month => ⟨1, 12⟩
  | .weekday => ⟨1, 7⟩
  | .dayOfYear => ⟨1, 366⟩
  | .weekOfYear => ⟨1, 53⟩
  | .hour => ⟨0, 23⟩
  | .minute => ⟨0, 59⟩
  | .second => ⟨0, 59⟩

theorem mem_all (part : Part) : part ∈ all := by
  cases part <;> decide

theorem ofName?_name (part : Part) : ofName? part.name = some part := by
  cases part <;> decide

end Part

end Timetable
