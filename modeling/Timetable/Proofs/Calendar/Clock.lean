import Timetable.Occurrence

/-! Times of day: what clocks show to the second.

The reading at an hour, minute and second of a date is the one reading with that date, hour, minute
and second and without a fraction, and later times of day are later readings.
-/

set_option autoImplicit false

namespace Timetable

theorem Date.plusDays_eq_ok {date later : Date} {days : Nat} :
    date.plusDays days = .ok later ↔ later.number = date.number + days := by
  have positive := later.positive
  have bounded := later.bounded
  simp only [plusDays, ofNumber?]
  by_cases within : 1 ≤ date.number + days ∧ date.number + days ≤ lastDayNumber
  · cases later
    simp only [dif_pos within, Except.ok.injEq, mk.injEq]
    exact eq_comm
  · simp only [dif_neg within]
    constructor
    · rintro ⟨⟩
    · intro same
      exact absurd (same ▸ ⟨positive, bounded⟩) within

namespace Wall

theorem ext_micros {left right : Wall} (same : left.micros = right.micros) : left = right := by
  cases left
  cases right
  cases same
  rfl

theorem checkWidth_eq_ok {component : Int} (low : 0 ≤ component) (high : component < 60) :
    checkWidth component = .ok () := by
  simp only [checkWidth]
  rw [if_neg (by omega), if_neg (by omega), if_neg (by omega)]

theorem micros_eq (wall : Wall) :
    wall.micros = (wall.date.number - 1) * dayMicros +
      ((wall.hour * 60 + wall.minute) * 60 + wall.second) * secondMicros + wall.microsecond := by
  simp only [date, hour, minute, second, microsecond, timeOfDay, dayMicros, secondMicros]
  omega

theorem parts_within (wall : Wall) : wall.hour < 24 ∧ wall.minute < 60 ∧ wall.second < 60 := by
  simp only [hour, minute, second, timeOfDay, dayMicros, secondMicros]
  omega

variable {day : Date} {wall : Wall}

theorem atTime_eq_ok (day : Date) {hour minute second : Int} (hours : 0 ≤ hour ∧ hour < 24)
    (minutes : 0 ≤ minute ∧ minute < 60) (seconds : 0 ≤ second ∧ second < 60) :
    ∃ wall, atTime day hour minute second = .ok wall ∧ wall.date = day ∧ wall.hour = hour ∧
      wall.minute = minute ∧ wall.second = second ∧ wall.microsecond = 0 := by
  refine ⟨onDate day (((hour.toNat * 60 + minute.toNat) * 60 + second.toNat) * secondMicros)
    (by simp only [dayMicros, secondMicros]; omega), ?_, ?_⟩
  · simp only [atTime, checkWidth_eq_ok hours.1 (by omega), checkWidth_eq_ok minutes.1 minutes.2,
      checkWidth_eq_ok seconds.1 seconds.2, bind, Except.bind, dif_pos hours, dif_pos minutes,
      dif_pos seconds, pure, Except.pure]
  · have positive := day.positive
    refine ⟨?_, ?_⟩
    · cases day
      simp only [date, onDate, dayMicros, secondMicros, Date.mk.injEq]
      omega
    · simp only [Wall.hour, Wall.minute, Wall.second, microsecond, timeOfDay, onDate, dayMicros,
        secondMicros]
      omega

/-- The reading at a time of day of a date is the one with these parts and without a fraction. -/
theorem atTime_eq_ok_iff {hour minute second : Int} :
    atTime day hour minute second = .ok wall ↔ wall.date = day ∧ wall.hour = hour ∧
      wall.minute = minute ∧ wall.second = second ∧ wall.microsecond = 0 := by
  by_cases fits : (0 ≤ hour ∧ hour < 24) ∧ (0 ≤ minute ∧ minute < 60) ∧ 0 ≤ second ∧ second < 60
  · obtain ⟨found, known, sameDate, sameHour, sameMinute, sameSecond, whole⟩ :=
      atTime_eq_ok day fits.1 fits.2.1 fits.2.2
    rw [known, Except.ok.injEq]
    constructor
    · rintro rfl
      exact ⟨sameDate, sameHour, sameMinute, sameSecond, whole⟩
    · rintro ⟨ownDate, ownHour, ownMinute, ownSecond, own⟩
      apply ext_micros
      rw [found.micros_eq, wall.micros_eq, ownDate, sameDate, own, whole,
        Int.ofNat_inj.mp (sameHour.trans ownHour.symm),
        Int.ofNat_inj.mp (sameMinute.trans ownMinute.symm),
        Int.ofNat_inj.mp (sameSecond.trans ownSecond.symm)]
  · refine ⟨fun known => absurd ?_ fits, fun parts => absurd ?_ fits⟩
    · simp only [atTime, bind, Except.bind] at known
      repeat' split at known
      all_goals first
        | exact ⟨‹_›, ‹_›, ‹_›⟩
        | cases known
    · have within := wall.parts_within
      omega

theorem micros_lt_of_date_lt {later : Wall} (ordered : wall.date.number < later.date.number) :
    wall.micros < later.micros := by
  simp only [date, dayMicros, secondMicros] at ordered
  omega

end Wall

namespace Clock

def Before (earlier later : Clock) : Prop :=
  earlier.hour < later.hour ∨ earlier.hour = later.hour ∧
    (earlier.minute < later.minute ∨ earlier.minute = later.minute ∧ earlier.second < later.second)

theorem micros_lt_of_before {day : Date} {clock other : Clock} {wall later : Wall}
    (ordered : clock.Before other)
    (shown : Wall.atTime day clock.hour clock.minute clock.second = .ok wall)
    (shownLater : Wall.atTime day other.hour other.minute other.second = .ok later) :
    wall.micros < later.micros := by
  obtain ⟨sameDate, sameHour, sameMinute, sameSecond, whole⟩ := Wall.atTime_eq_ok_iff.mp shown
  obtain ⟨ownDate, ownHour, ownMinute, ownSecond, own⟩ := Wall.atTime_eq_ok_iff.mp shownLater
  have within := wall.parts_within
  rw [wall.micros_eq, later.micros_eq, sameDate, ownDate]
  simp only [Before] at ordered
  simp only [dayMicros, secondMicros]
  omega

variable {hours minutes seconds : List Int}

theorem mem_combinations {clock : Clock} :
    clock ∈ combinations hours minutes seconds ↔
      clock.hour ∈ hours ∧ clock.minute ∈ minutes ∧ clock.second ∈ seconds := by
  simp only [combinations, List.mem_flatMap, List.mem_map]
  constructor
  · rintro ⟨hour, hourIn, minute, minuteIn, second, secondIn, rfl⟩
    exact ⟨hourIn, minuteIn, secondIn⟩
  · rintro ⟨hourIn, minuteIn, secondIn⟩
    exact ⟨_, hourIn, _, minuteIn, _, secondIn, rfl⟩

theorem pairwise_combinations (increasingHours : hours.Pairwise (· < ·))
    (increasingMinutes : minutes.Pairwise (· < ·)) (increasingSeconds : seconds.Pairwise (· < ·)) :
    (combinations hours minutes seconds).Pairwise Before := by
  refine List.pairwise_flatMap.mpr ⟨fun hour _ => ?_, increasingHours.imp ?_⟩
  · refine List.pairwise_flatMap.mpr ⟨fun minute _ => ?_, increasingMinutes.imp ?_⟩
    · exact List.pairwise_map.mpr (increasingSeconds.imp fun less => .inr ⟨rfl, .inr ⟨rfl, less⟩⟩)
    · intro minute other less clock member later otherMember
      obtain ⟨_, _, rfl⟩ := List.mem_map.mp member
      obtain ⟨_, _, rfl⟩ := List.mem_map.mp otherMember
      exact .inr ⟨rfl, .inl less⟩
  · intro hour other less clock member later otherMember
    obtain ⟨_, -, member⟩ := List.mem_flatMap.mp member
    obtain ⟨_, -, rfl⟩ := List.mem_map.mp member
    obtain ⟨_, -, otherMember⟩ := List.mem_flatMap.mp otherMember
    obtain ⟨_, -, rfl⟩ := List.mem_map.mp otherMember
    exact .inl less

theorem length_combinations :
    (combinations hours minutes seconds).length =
      hours.length * (minutes.length * seconds.length) := by
  simp [combinations, List.length_flatMap, List.map_const']

theorem combinations_eq_nil
    (empty : (hours.isEmpty || minutes.isEmpty || seconds.isEmpty) = true) :
    combinations hours minutes seconds = [] := by
  apply List.eq_nil_iff_forall_not_mem.mpr
  intro clock member
  obtain ⟨hourIn, minuteIn, secondIn⟩ := mem_combinations.mp member
  simp only [Bool.or_eq_true, List.isEmpty_iff] at empty
  obtain (rfl | rfl) | rfl := empty
  · exact List.not_mem_nil hourIn
  · exact List.not_mem_nil minuteIn
  · exact List.not_mem_nil secondIn

end Clock

end Timetable
