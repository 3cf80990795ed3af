import Timetable.Proofs.Calendar.Clock

/-! What a search collects.

A search that meets no fault collects, day by day and candidate by candidate, every run there is, up
to its limit.
-/

set_option autoImplicit false

namespace Timetable

namespace Search

def found (search : Search) (date : Date) (clock : Clock) : Option DateTime :=
  match search.runAt date clock with
  | .ok time => time
  | .error _ => none

def foundOn (search : Search) (date : Date) : List DateTime :=
  match search.rule.matchesDate date with
  | .ok true => search.clocks.filterMap (search.found date)
  | _ => []

def foundAfter (search : Search) (passed : Nat) : List DateTime :=
  match search.firstDay.plusDays passed with
  | .ok date => search.foundOn date
  | .error _ => []

def foundWithin (search : Search) (days : Nat) : List DateTime :=
  (List.range' 0 days).flatMap search.foundAfter

structure SafeOn (search : Search) (date : Date) : Prop where
  matched : ∃ matched, search.rule.matchesDate date = .ok matched
  runs : search.rule.matchesDate date = .ok true →
    ∀ clock ∈ search.clocks, ∃ time, search.runAt date clock = .ok time

variable {search : Search} {date : Date} {clock : Clock} {time : DateTime}

theorem found_eq_some :
    search.found date clock = some time ↔ search.runAt date clock = .ok (some time) := by
  simp only [found]
  split
  next known => rw [known, Except.ok.injEq]
  next known => simp [known]

theorem runsOn_eq {limit : Nat} {clocks : List Clock}
    (safe : ∀ clock ∈ clocks, ∃ time, search.runAt date clock = .ok time) :
    search.runsOn date limit clocks = ⟨(clocks.filterMap (search.found date)).take limit, none⟩ := by
  induction clocks generalizing limit with
  | nil => simp [runsOn, Runs.none]
  | cons clock rest ih =>
    rw [List.forall_mem_cons] at safe
    obtain ⟨⟨time, known⟩, others⟩ := safe
    have found : search.found date clock = time := by simp only [found, known]
    cases limit with
    | zero => simp [runsOn, Runs.none]
    | succ limit =>
      simp only [runsOn, known, if_neg (Nat.succ_ne_zero limit), List.filterMap_cons, found]
      cases time with
      | none => exact ih others
      | some time =>
        simp only [Nat.add_sub_cancel, ih others, Runs.cons, List.take_succ_cons]

theorem runsFrom_eq {limit passed days : Nat}
    (safe : ∀ further < days, ∃ date, search.firstDay.plusDays (passed + further) = .ok date ∧
      search.SafeOn date) :
    search.runsFrom limit passed days =
      ⟨((List.range' passed days).flatMap search.foundAfter).take limit, none⟩ := by
  induction days generalizing limit passed with
  | zero => simp [runsFrom, Runs.none]
  | succ days ih =>
    obtain ⟨date, known, matched, runs⟩ := safe 0 (Nat.succ_pos days)
    have later : ∀ limit, search.runsFrom limit (passed + 1) days =
        ⟨((List.range' (passed + 1) days).flatMap search.foundAfter).take limit, none⟩ := by
      refine fun limit => ih fun further below => ?_
      have next := safe (further + 1) (Nat.succ_lt_succ below)
      rwa [← Nat.add_assoc, Nat.add_right_comm] at next
    rw [Nat.add_zero] at known
    obtain ⟨matched, asked⟩ := matched
    simp only [runsFrom, known, asked, List.range'_succ, List.flatMap_cons, foundAfter, foundOn]
    by_cases reached : limit = 0
    · simp [reached, Runs.none]
    · rw [if_neg reached]
      cases matched with
      | false => exact later limit
      | true =>
        simp only [runsOn_eq (runs asked), later]
        rw [List.take_append, List.length_take]
        congr 3
        omega

theorem runsFrom_eq_foundWithin {limit days : Nat}
    (safe : ∀ passed < days, ∃ date, search.firstDay.plusDays passed = .ok date ∧
      search.SafeOn date)
    (enough : (search.foundWithin days).length ≤ limit) :
    search.runsFrom limit 0 days = ⟨search.foundWithin days, none⟩ := by
  rw [runsFrom_eq fun further below => (Nat.zero_add further).symm ▸ safe further below]
  exact congrArg (Runs.mk · none) (List.take_of_length_le enough)

theorem mem_foundAfter {passed : Nat} :
    time ∈ search.foundAfter passed ↔
      ∃ date, search.firstDay.plusDays passed = .ok date ∧
        search.rule.matchesDate date = .ok true ∧
          ∃ clock ∈ search.clocks, search.runAt date clock = .ok (some time) := by
  simp only [foundAfter]
  split
  next date known =>
    simp only [known, Except.ok.injEq, exists_eq_left', foundOn]
    split
    next matched => simp [matched, found_eq_some]
    next unmatched =>
      exact ⟨fun member => absurd member List.not_mem_nil, fun found => absurd found.1 unmatched⟩
  next fault known => simp [known]

theorem length_foundAfter (search : Search) (passed : Nat) :
    (search.foundAfter passed).length ≤ search.clocks.length := by
  simp only [foundAfter, foundOn]
  split
  · split
    · exact List.length_filterMap_le _ _
    · exact Nat.zero_le _
  · exact Nat.zero_le _

theorem length_foundWithin (search : Search) (days : Nat) :
    (search.foundWithin days).length ≤ days * search.clocks.length := by
  suffices later : ∀ passed, ((List.range' passed days).flatMap search.foundAfter).length ≤
      days * search.clocks.length from later 0
  induction days with
  | zero => simp
  | succ days ih =>
    intro passed
    rw [List.range'_succ, List.flatMap_cons, List.length_append, Nat.succ_mul, Nat.add_comm]
    exact Nat.add_le_add (ih (passed + 1)) (search.length_foundAfter passed)

theorem foundWithin_eq_nil (timeless : search.clocks = []) (days : Nat) :
    search.foundWithin days = [] := by
  have fewest := search.length_foundWithin days
  rw [timeless, List.length_nil, Nat.mul_zero] at fewest
  exact List.length_eq_zero_iff.mp (Nat.le_zero.mp fewest)

theorem wall_of_runAt (known : search.runAt date clock = .ok (some time)) :
    Wall.atTime date clock.hour clock.minute clock.second = .ok time.wall := by
  simp only [runAt, bind, Except.bind, pure, Except.pure] at known
  repeat' split at known
  all_goals cases known
  all_goals assumption

/-- Runs are found in the order in which calendar and clock show them. -/
theorem pairwise_foundWithin (increasing : search.clocks.Pairwise Clock.Before) (days : Nat) :
    (search.foundWithin days).Pairwise fun earlier later =>
      earlier.wall.micros < later.wall.micros := by
  refine List.pairwise_flatMap.mpr ⟨fun day _ => ?_, (List.pairwise_lt_range' 1).imp ?_⟩
  · simp only [foundAfter, foundOn]
    split
    next date _ =>
      split
      next =>
        refine List.pairwise_filterMap.mpr (increasing.imp ?_)
        intro clock other ordered time found later foundLater
        exact Clock.micros_lt_of_before ordered (wall_of_runAt (found_eq_some.mp found))
          (wall_of_runAt (found_eq_some.mp foundLater))
      next => exact .nil
    next => exact .nil
  · intro day other ordered time found later foundLater
    obtain ⟨date, known, -, clock, -, run⟩ := mem_foundAfter.mp found
    obtain ⟨otherDate, knownLater, -, otherClock, -, runLater⟩ := mem_foundAfter.mp foundLater
    have own := (Wall.atTime_eq_ok_iff.mp (wall_of_runAt run)).1
    have others := (Wall.atTime_eq_ok_iff.mp (wall_of_runAt runLater)).1
    apply Wall.micros_lt_of_date_lt
    rw [own, others, Date.plusDays_eq_ok.mp known, Date.plusDays_eq_ok.mp knownLater]
    omega

end Search

end Timetable
