import Timetable.Proofs.Calendar.Year
import Timetable.Proofs.Zone.Timeline
import Timetable.Zone.Named

/-! The timeline of a named zone.

An offset is found from the listed transitions and those of two years. Seasons keep away from the
ends of a year, so that whatever happened in earlier years is past and what comes in later years is
still ahead, and the offset is the one that the transitions of all years give.
-/

set_option autoImplicit false

namespace Timetable

abbrev IsOffset (offset : Int) : Prop :=
  -86400 ≤ offset ∧ offset ≤ 86400

section OffsetAfter

variable {reached : Int → Transition → Bool} {before : Int} {transitions : List Transition}

theorem isOffset_offsetAfter (moderate : IsOffset before)
    (offsets : ∀ transition ∈ transitions, IsOffset transition.offset) :
    IsOffset (offsetAfter reached before transitions) := by
  induction transitions generalizing before with
  | nil => exact moderate
  | cons transition rest ih =>
    rw [List.forall_mem_cons] at offsets
    simp only [offsetAfter]
    split
    · exact ih offsets.1 offsets.2
    · exact moderate

theorem offsetAfter_congr {other : Int → Transition → Bool} (moderate : IsOffset before)
    (offsets : ∀ transition ∈ transitions, IsOffset transition.offset)
    (same : ∀ offset, IsOffset offset → ∀ transition ∈ transitions,
      reached offset transition = other offset transition) :
    offsetAfter reached before transitions = offsetAfter other before transitions := by
  induction transitions generalizing before with
  | nil => rfl
  | cons transition rest ih =>
    have agree := same before moderate transition List.mem_cons_self
    rw [List.forall_mem_cons] at offsets
    simp only [offsetAfter, agree]
    split
    · exact ih offsets.1 offsets.2 fun offset bounded other member =>
        same offset bounded other (List.mem_cons_of_mem _ member)
    · rfl

theorem offsetAfter_append_congr {later other : List Transition} (moderate : IsOffset before)
    (offsets : ∀ transition ∈ transitions, IsOffset transition.offset)
    (same : ∀ offset, IsOffset offset →
      offsetAfter reached offset later = offsetAfter reached offset other) :
    offsetAfter reached before (transitions ++ later) =
      offsetAfter reached before (transitions ++ other) := by
  induction transitions generalizing before with
  | nil => exact same before moderate
  | cons transition rest ih =>
    rw [List.forall_mem_cons] at offsets
    simp only [List.cons_append, offsetAfter]
    split
    · exact ih offsets.1 offsets.2
    · rfl

theorem offsetAfter_of_ahead (ahead : ∀ transition ∈ transitions, reached before transition = false) :
    offsetAfter reached before transitions = before := by
  cases transitions with
  | nil => rfl
  | cons transition rest => simp [offsetAfter, ahead transition List.mem_cons_self]

theorem offsetAfter_append_of_reached {later : List Transition} {last : Int}
    (moderate : IsOffset before)
    (offsets : ∀ transition ∈ transitions, IsOffset transition.offset)
    (past : ∀ offset, IsOffset offset → ∀ transition ∈ transitions, reached offset transition)
    (same : ∀ offset, IsOffset offset → offsetAfter reached offset later = last) :
    offsetAfter reached before (transitions ++ later) = last := by
  induction transitions generalizing before with
  | nil => exact same before moderate
  | cons transition rest ih =>
    rw [List.forall_mem_cons] at offsets
    simp only [List.cons_append, offsetAfter, past before moderate transition List.mem_cons_self,
      if_true]
    exact ih offsets.1 offsets.2 fun offset bounded other member =>
      past offset bounded other (List.mem_cons_of_mem _ member)

end OffsetAfter

abbrev YearlyTime.IsTame (yearly : YearlyTime) : Prop :=
  2 ≤ yearly.month ∧ yearly.month ≤ 11 ∧ yearly.week ≤ 5 ∧ 0 ≤ yearly.time ∧ yearly.time ≤ 86400

abbrev Seasons.IsTame (seasons : Seasons) : Prop :=
  1 ≤ seasons.since ∧ seasons.since < 10000 ∧ IsOffset seasons.standard ∧
    IsOffset seasons.summer ∧ seasons.begins.IsTame ∧ seasons.ends.IsTame ∧
    (seasons.begins.month + 1 < seasons.ends.month ∨
      seasons.ends.month + 1 < seasons.begins.month)

namespace YearlyTime

variable {yearly later : YearlyTime}

theorem localSecond_spec (tame : yearly.IsTame) (year : Nat) :
    yearSecond year + daysBeforeMonth (isLeap year) yearly.month * 86400 ≤
        yearly.localSecond year ∧
      yearly.localSecond year ≤
        yearSecond year + daysBeforeMonth (isLeap year) (yearly.month + 1) * 86400 := by
  have days := yearly.dayNumber_spec year ⟨by omega, by omega⟩ tame.2.2.1
  simp only [localSecond, yearSecond]
  omega

theorem localSecond_within {year : Nat} (positive : 1 ≤ year) (tame : yearly.IsTame) :
    yearSecond year + 30 * 86400 ≤ yearly.localSecond year ∧
      yearly.localSecond year + 30 * 86400 ≤ yearSecond (year + 1) := by
  have spec := localSecond_spec tame year
  have days := daysBeforeYear_succ positive
  have opening := daysBeforeMonth_mono (isLeap year) yearly.month (by omega) 2 tame.1
  have closing := daysBeforeMonth_mono (isLeap year) 12 (by omega) (yearly.month + 1) (by omega)
  have february : 31 ≤ daysBeforeMonth (isLeap year) 2 := by
    cases isLeap year <;> decide
  have december : daysBeforeMonth (isLeap year) 12 ≤ 335 := by
    cases isLeap year <;> decide
  simp only [yearSecond] at spec ⊢
  omega

theorem localSecond_apart (year : Nat) (tame : yearly.IsTame) (other : later.IsTame)
    (apart : yearly.month + 1 < later.month) :
    yearly.localSecond year + 28 * 86400 ≤ later.localSecond year := by
  have first := localSecond_spec tame year
  have second := localSecond_spec other year
  have between := daysInMonth_spec (isLeap year) (yearly.month + 1) (by omega) (by omega)
  have ordered := daysBeforeMonth_mono (isLeap year) later.month (by omega) (yearly.month + 1 + 1)
    (by omega)
  omega

end YearlyTime

namespace Seasons

def last (seasons : Seasons) : Int :=
  if seasons.begins.month < seasons.ends.month then seasons.standard else seasons.summer

structure Parts (seasons : Seasons) (year : Nat) (first second : Transition) : Prop where
  transitions : seasons.transitions year = [first, second]
  opening : yearSecond year + 4 * 86400 ≤ first.second
  between : first.second + 4 * 86400 ≤ second.second
  closing : second.second + 4 * 86400 ≤ yearSecond (year + 1)
  firstOffset : IsOffset first.offset
  secondOffset : IsOffset second.offset
  last : second.offset = seasons.last

variable {seasons : Seasons} {year : Nat}

theorem isOffset_last (tame : seasons.IsTame) : IsOffset seasons.last := by
  simp only [last]
  split
  · exact tame.2.2.1
  · exact tame.2.2.2.1

theorem transitions_before (early : year < seasons.since) : seasons.transitions year = [] :=
  if_pos early

theorem parts (tame : seasons.IsTame) (late : seasons.since ≤ year) :
    ∃ first second, seasons.Parts year first second := by
  obtain ⟨since, -, standard, summer, begins, ends, apart⟩ := tame
  have beginning := YearlyTime.localSecond_within (Nat.le_trans since late) begins
  have ending := YearlyTime.localSecond_within (Nat.le_trans since late) ends
  have known : seasons.transitions year =
      if seasons.begins.localSecond year - seasons.standard ≤
          seasons.ends.localSecond year - seasons.summer then
        [⟨seasons.begins.localSecond year - seasons.standard, seasons.summer⟩,
          ⟨seasons.ends.localSecond year - seasons.summer, seasons.standard⟩]
      else
        [⟨seasons.ends.localSecond year - seasons.summer, seasons.standard⟩,
          ⟨seasons.begins.localSecond year - seasons.standard, seasons.summer⟩] :=
    if_neg (Nat.not_lt.mpr late)
  cases apart with
  | inl summerFirst =>
    have between := YearlyTime.localSecond_apart year begins ends summerFirst
    rw [if_pos (by omega)] at known
    exact ⟨_, _, known, show _ ≤ _ - _ by omega, show _ - _ + _ ≤ _ - _ by omega,
      show _ - _ + _ ≤ _ by omega, summer, standard, (if_pos (by omega)).symm⟩
  | inr standardFirst =>
    have between := YearlyTime.localSecond_apart year ends begins standardFirst
    rw [if_neg (by omega)] at known
    exact ⟨_, _, known, show _ ≤ _ - _ by omega, show _ - _ + _ ≤ _ - _ by omega,
      show _ - _ + _ ≤ _ by omega, standard, summer, (if_neg (by omega)).symm⟩

theorem mem_transitions (tame : seasons.IsTame) {transition : Transition}
    (member : transition ∈ seasons.transitions year) :
    seasons.since ≤ year ∧ yearSecond year + 4 * 86400 ≤ transition.second ∧
      transition.second + 4 * 86400 ≤ yearSecond (year + 1) ∧ IsOffset transition.offset := by
  by_cases early : year < seasons.since
  · rw [transitions_before early] at member
    exact absurd member List.not_mem_nil
  · have late := Nat.not_lt.mp early
    obtain ⟨first, second, parts⟩ := parts tame late
    have between := parts.between
    rw [parts.transitions, List.mem_cons, List.mem_singleton] at member
    cases member with
    | inl same =>
      subst same
      exact ⟨late, parts.opening, by have closing := parts.closing; omega, parts.firstOffset⟩
    | inr same =>
      subst same
      exact ⟨late, by have opening := parts.opening; omega, parts.closing, parts.secondOffset⟩

theorem spaced (tame : seasons.IsTame) (late : seasons.since ≤ year) {before : Int}
    (moderate : IsOffset before) :
    Spaced (yearSecond year) before (seasons.transitions year) (yearSecond (year + 1))
      seasons.last := by
  obtain ⟨first, second, parts⟩ := parts tame late
  obtain ⟨transitions, opening, between, closing, firstOffset, secondOffset, last⟩ := parts
  rw [transitions, ← last]
  exact .cons (by omega) (.cons (by omega) (.nil (by omega)))

theorem offsetAfter_append (tame : seasons.IsTame) (late : seasons.since ≤ year)
    {reached : Int → Transition → Bool} {before : Int} (moderate : IsOffset before)
    (past : ∀ offset, IsOffset offset →
      ∀ transition ∈ seasons.transitions year, reached offset transition)
    (later : List Transition) :
    offsetAfter reached before (seasons.transitions year ++ later) =
      offsetAfter reached seasons.last later := by
  obtain ⟨first, second, parts⟩ := parts tame late
  rw [parts.transitions] at past ⊢
  have firstPast := past before moderate first List.mem_cons_self
  have secondPast := past first.offset parts.firstOffset second (by simp)
  simp only [List.cons_append, List.nil_append, offsetAfter, firstPast, secondPast, if_true,
    parts.last]

def transitionsBefore (seasons : Seasons) (year : Nat) : List Transition :=
  (List.range year).flatMap seasons.transitions

theorem transitionsBefore_succ :
    seasons.transitionsBefore (year + 1) =
      seasons.transitionsBefore year ++ seasons.transitions year := by
  simp [transitionsBefore, List.range_succ, List.flatMap_append]

theorem mem_transitionsBefore {transition : Transition} :
    transition ∈ seasons.transitionsBefore year ↔
      ∃ earlier < year, transition ∈ seasons.transitions earlier := by
  simp [transitionsBefore, List.mem_flatMap]

theorem transitionsBefore_since (early : year ≤ seasons.since) :
    seasons.transitionsBefore year = [] := by
  refine List.flatMap_eq_nil_iff.mpr fun earlier member => transitions_before ?_
  exact Nat.lt_of_lt_of_le (List.mem_range.mp member) early

theorem transitionsBefore_append (seasons : Seasons) {further : Nat} (ordered : year ≤ further) :
    ∃ later, seasons.transitionsBefore further = seasons.transitionsBefore year ++ later ∧
      ∀ transition ∈ later, ∃ other, year ≤ other ∧ transition ∈ seasons.transitions other := by
  induction ordered with
  | refl => exact ⟨[], (List.append_nil _).symm, fun _ member => absurd member List.not_mem_nil⟩
  | @step further ordered ih =>
    obtain ⟨later, split, late⟩ := ih
    refine ⟨later ++ seasons.transitions further, ?_, fun transition member => ?_⟩
    · rw [Nat.succ_eq_add_one, transitionsBefore_succ, split, List.append_assoc]
    · exact (List.mem_append.mp member).elim (late transition) fun member =>
        ⟨further, ordered, member⟩

/-- Whether a transition is reached in a year is settled if it comes days before or after it. -/
structure Settles (reached : Int → Transition → Bool) (year : Nat) : Prop where
  past : ∀ offset, IsOffset offset → ∀ transition, IsOffset transition.offset →
    transition.second + 4 * 86400 ≤ yearSecond year → reached offset transition = true
  ahead : ∀ offset, IsOffset offset → ∀ transition, IsOffset transition.offset →
    yearSecond (year + 1) + 4 * 86400 ≤ transition.second → reached offset transition = false

/-- The transitions of a year and of the one before decide as those of all years do. -/
theorem offsetAfter_two_years (tame : seasons.IsTame) {reached : Int → Transition → Bool}
    (settled : Settles reached (year + 1)) (bounded : year + 1 < 10000) {before : Int}
    (moderate : IsOffset before) :
    offsetAfter reached before (seasons.transitions year ++ seasons.transitions (year + 1)) =
      offsetAfter reached before (seasons.transitionsBefore 10000) := by
  have offsets : ∀ {years transition}, transition ∈ seasons.transitionsBefore years →
      IsOffset transition.offset := by
    intro years transition member
    obtain ⟨earlier, -, member⟩ := mem_transitionsBefore.mp member
    exact (mem_transitions tame member).2.2.2
  obtain ⟨later, split, late⟩ :=
    seasons.transitionsBefore_append (Nat.succ_le_of_lt bounded)
  have cut : offsetAfter reached before (seasons.transitionsBefore (year + 2) ++ later) =
      offsetAfter reached before (seasons.transitionsBefore (year + 2) ++ []) := by
    apply offsetAfter_append_congr moderate (fun _ => offsets)
    intro offset bounded
    apply offsetAfter_of_ahead
    intro transition member
    obtain ⟨other, beyond, member⟩ := late transition member
    have bounds := mem_transitions tame member
    have ordered : yearSecond (year + 1 + 1) ≤ yearSecond other := yearSecond_mono beyond
    exact settled.ahead offset bounded transition bounds.2.2.2 (by omega)
  rw [split, cut, List.append_nil, transitionsBefore_succ, transitionsBefore_succ,
    List.append_assoc]
  by_cases early : year < seasons.since
  · rw [transitionsBefore_since (Nat.le_of_lt early), List.nil_append]
  · have past : ∀ offset, IsOffset offset → ∀ earlier ≤ year,
        ∀ transition ∈ seasons.transitions earlier, reached offset transition = true := by
      intro offset bounded earlier ordered transition member
      have bounds := mem_transitions tame member
      have seconds : yearSecond (earlier + 1) ≤ yearSecond (year + 1) :=
        yearSecond_mono (Nat.succ_le_succ ordered)
      exact settled.past offset bounded transition bounds.2.2.2 (by omega)
    have step := fun {offset} (bounded : IsOffset offset) =>
      offsetAfter_append tame (Nat.not_lt.mp early) bounded
        (fun offset bounded => past offset bounded year (Nat.le_refl _))
        (seasons.transitions (year + 1))
    rw [step moderate]
    refine (offsetAfter_append_of_reached moderate (fun _ => offsets)
      (fun offset bounded transition member => ?_) fun offset bounded => step bounded).symm
    obtain ⟨earlier, ordered, member⟩ := mem_transitionsBefore.mp member
    exact past offset bounded earlier (Nat.le_of_lt ordered) transition member

end Seasons

end Timetable
