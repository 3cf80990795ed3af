import Timetable.Zone

/-! The years of the calendar and the days, months and readings that they hold. -/

set_option autoImplicit false

namespace Timetable

theorem daysBeforeYear_succ {year : Nat} (positive : 1 ≤ year) :
    daysBeforeYear year + 365 ≤ daysBeforeYear (year + 1) := by
  simp only [daysBeforeYear]
  omega

theorem daysBeforeYear_mono {earlier later : Nat} (ordered : earlier ≤ later) :
    daysBeforeYear earlier ≤ daysBeforeYear later := by
  induction ordered with
  | refl => exact Nat.le_refl _
  | @step year _ ih =>
    cases year with
    | zero => exact ih
    | succ year =>
      have longer := daysBeforeYear_succ (Nat.le_add_left 1 year)
      exact Nat.le_trans ih (Nat.le_trans (Nat.le_add_right _ _) longer)

theorem yearOfDay_spec {number : Nat} (positive : 1 ≤ number) :
    1 ≤ yearOfDay number ∧ daysBeforeYear (yearOfDay number) < number ∧
      number ≤ daysBeforeYear (yearOfDay number + 1) := by
  simp only [yearOfDay]
  split
  · simp only [daysBeforeYear] at *
    omega
  · split
    · simp only [daysBeforeYear] at *
      omega
    · omega

def yearSecond (year : Nat) : Int :=
  daysBeforeYear year * 86400

theorem yearSecond_mono {earlier later : Nat} (ordered : earlier ≤ later) :
    yearSecond earlier ≤ yearSecond later := by
  have days := daysBeforeYear_mono ordered
  simp only [yearSecond]
  omega

theorem yearSecond_last : yearSecond 10000 * 1000000 = calendarMicros := by
  decide

theorem yearOf_spec (wall : Wall) :
    1 ≤ Zone.yearOf wall.micros ∧ Zone.yearOf wall.micros ≤ 9999 ∧
      yearSecond (Zone.yearOf wall.micros) * 1000000 ≤ wall.micros ∧
      (wall.micros : Int) < yearSecond (Zone.yearOf wall.micros + 1) * 1000000 := by
  have spec := yearOfDay_spec (Nat.le_add_left 1 (wall.micros / dayMicros))
  have bounded := wall.bounded
  have last : daysBeforeYear 10000 = lastDayNumber := rfl
  have year : Zone.yearOf wall.micros = yearOfDay (wall.micros / dayMicros + 1) := rfl
  rw [← year] at spec
  refine ⟨spec.1, ?_, ?_⟩
  · apply Nat.le_of_not_lt
    intro beyond
    have days : daysBeforeYear 10000 ≤ daysBeforeYear (Zone.yearOf wall.micros) :=
      daysBeforeYear_mono beyond
    simp only [calendarMicros, dayMicros, secondMicros] at *
    omega
  · simp only [yearSecond, calendarMicros, dayMicros, secondMicros] at *
    omega

theorem daysInMonth_spec :
    ∀ leap, ∀ month < 13, 1 ≤ month →
      28 ≤ daysInMonth leap month ∧
        daysBeforeMonth leap month + daysInMonth leap month = daysBeforeMonth leap (month + 1) := by
  decide

theorem daysBeforeMonth_mono :
    ∀ leap, ∀ later < 14, ∀ earlier ≤ later,
      daysBeforeMonth leap earlier ≤ daysBeforeMonth leap later := by
  decide

theorem YearlyTime.dayNumber_spec (yearly : YearlyTime) (year : Nat)
    (month : 1 ≤ yearly.month ∧ yearly.month ≤ 12) (week : yearly.week ≤ 5) :
    daysBeforeYear year + daysBeforeMonth (isLeap year) yearly.month < yearly.dayNumber year ∧
      yearly.dayNumber year ≤
        daysBeforeYear year + daysBeforeMonth (isLeap year) (yearly.month + 1) := by
  have days := daysInMonth_spec (isLeap year) yearly.month (by omega) month.1
  have first : Timetable.dayNumber year yearly.month 1 =
      daysBeforeYear year + daysBeforeMonth (isLeap year) yearly.month + 1 := rfl
  unfold YearlyTime.dayNumber
  dsimp only
  generalize Timetable.dayNumber year yearly.month 1 = start at first ⊢
  split
  · omega
  · omega

end Timetable
