/-! Tables of closed intervals of code points, in increasing order. -/

set_option autoImplicit false

namespace Timetable.Text

abbrev Interval := Nat × Nat

/-- Whether one of the intervals holds `n`; the search ends at the first interval that reaches
it. -/
def covers : List Interval → Nat → Bool
  | [], _ => false
  | (first, last) :: rest, n => if n ≤ last then decide (first ≤ n) else covers rest n

theorem covers_cons (interval : Interval) (rest : List Interval) (n : Nat) :
    covers (interval :: rest) n =
      if n ≤ interval.2 then decide (interval.1 ≤ n) else covers rest n := by
  cases interval; rfl

end Timetable.Text
