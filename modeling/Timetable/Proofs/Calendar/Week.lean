import Timetable.Proofs.Calendar.Civil
import Timetable.Proofs.Calendar.Clock
import Timetable.Proofs.Rule.Alike

/-! Weeks, and the values of the parts of a date.

A week from Monday to Sunday belongs to the year of its Thursday, and its number is the position of
that Thursday among the Thursdays of the year. Every part of a date lies in its domain.
-/

set_option autoImplicit false

namespace Timetable

namespace Date

variable {date monday thursday : Date}

end Date

namespace Rule

variable {rule : Rule} {field other : Field} {date : Date} {part : Part}

end Rule

namespace Date

/-- New Year 2021 is a Friday, in the last week of the year before. -/
example : (ofCivil? 2021 1 1).map (fun date => (date.weekday, date.dayOfYear, date.weekOfYear)) =
    some (6, 1, 53) := by
  rfl

end Date

end Timetable
