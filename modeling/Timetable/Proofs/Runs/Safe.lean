import Timetable.Proofs.Runs.Walk
import Timetable.Proofs.Zone.Home
import Timetable.Proofs.Zone.Taken

/-! Searches that do not fail.

A rule that was read divides by no step of zero and generates times of day that clocks have. What is
left to go wrong is to leave the calendar, and a search that starts two days from its ends and stops
before its last day does not: the offset of a zone is a day at most. The clock of the machine is
another matter where a search depends on the zone of the machine.
-/

set_option autoImplicit false

namespace Timetable

/-- A zone with one offset of at most a day, or one of the table. -/
structure Zone.IsModerate (zone : Zone) : Prop where
  known : zone.IsKnown
  short : ∀ offset, zone = .fixed offset → IsOffset offset

/-- Two days at least lie between the instant and either end of the calendar. -/
def IsInner (instant : Int) : Prop :=
  2 * dayMicros ≤ instant ∧ instant + 2 * dayMicros ≤ calendarMicros

section Starts

variable (machine : MachineZone) (clock : Instant) (now : Option DateTime) (tz : Option Zone)

/-- The zone in which runs after a time are sought: the given one, or else that of the time, or else
that of the machine. -/
def searchZone : Zone :=
  tz.getD ((now.bind DateTime.zone).getD machine.zone)

/-- The instant after which runs are sought: the clock's where no time is given. A time without a
zone is read in the zone of the search. -/
def searchStart : Except Fault Instant :=
  match now with
  | none => .ok clock
  | some time => DateTime.instant { time with zone := some (time.zone.getD (tz.getD machine.zone)) }

/-- The zone of the machine can be told if it is asked for at all: it is for a time without a zone
where none is given either. -/
def IsLocated : Prop :=
  tz = none → ∀ time, now = some time → time.zone = none → machine.Tells clock

end Starts

namespace Zone

variable {zone : Zone} {clock start : Int} {time : DateTime}

theorem IsModerate.isOffset_offsetAt (moderate : zone.IsModerate) (instant : Instant) :
    IsOffset (zone.offsetAt instant) := by
  cases zone with
  | fixed offset => exact moderate.short offset rfl
  | named own => exact (isTame_of_mem_allNamed own (moderate.known own rfl)).isOffset_offsetAt _ _

theorem IsModerate.isOffset_offsetOf (moderate : zone.IsModerate) (fold : Bool) (wall : Wall) :
    IsOffset (zone.offsetOf fold wall) := by
  cases zone with
  | fixed offset => exact moderate.short offset rfl
  | named own => exact (isTame_of_mem_allNamed own (moderate.known own rfl)).isOffset_offsetOf _ _ _

theorem IsModerate.exists_shown (moderate : zone.IsModerate) (inner : IsInner start) :
    ∃ time, DateTime.ofInstant zone start = .ok time ∧ time.zone = some zone ∧
      time.instant = .ok start := by
  obtain ⟨late, early⟩ := inner
  obtain ⟨least, greatest⟩ := moderate.isOffset_offsetAt start
  simp only [dayMicros, secondMicros] at late early
  obtain ⟨wall, moved⟩ :=
    Wall.exists_of_within (start + zone.offsetAt start * 1000000) (by omega) (by omega)
  have shown := DateTime.ofInstant_eq_ok.mpr ⟨wall, Wall.ofMicros_eq_ok.mpr moved, rfl⟩
  obtain ⟨universal, same⟩ := Wall.exists_of_within start (by omega) (by omega)
  refine ⟨_, shown, rfl, ?_⟩
  rw [moderate.known.instant_ofInstant shown]
  exact Wall.map_micros_eq_ok.mpr ⟨universal, same, same⟩

theorem IsModerate.wall_near (moderate : zone.IsModerate) (placed : time.zone = some zone)
    (taken : time.instant = .ok start) :
    start - dayMicros ≤ time.wall.micros ∧ time.wall.micros ≤ start + dayMicros := by
  obtain ⟨least, greatest⟩ := moderate.isOffset_offsetOf time.fold time.wall
  simp only [DateTime.instant, DateTime.offset?, placed, Option.map_some] at taken
  obtain ⟨universal, moved, rfl⟩ := Wall.map_micros_eq_ok.mp taken
  simp only [dayMicros, secondMicros] at moved ⊢
  omega

theorem IsModerate.instant_of_inner (moderate : zone.IsModerate) {wall : Wall}
    (inner : dayMicros ≤ wall.micros ∧ wall.micros + dayMicros < calendarMicros) :
    ∃ universal : Wall, DateTime.instant ⟨wall, some zone, false⟩ = .ok (universal.micros : Int) := by
  obtain ⟨least, greatest⟩ := moderate.isOffset_offsetOf false wall
  obtain ⟨past, ahead⟩ := inner
  simp only [dayMicros, secondMicros] at past ahead
  obtain ⟨universal, moved⟩ :=
    Wall.exists_of_within (wall.micros - zone.offsetOf false wall * 1000000) (by omega) (by omega)
  exact ⟨universal, instant_eq_ok.mpr ⟨universal, rfl, moved⟩⟩

end Zone

section Resolved

variable {machine : MachineZone} {clock start : Int} {now : Option DateTime} {tz : Option Zone}

/-- The time after which runs are sought is found, in the zone of the search and at its start. -/
theorem exists_resolved (moderate : (searchZone machine now tz).IsModerate)
    (started : searchStart machine clock now tz = .ok start) (inner : IsInner start)
    (located : IsLocated machine clock now tz) :
    ∃ time, resolve clock now tz machine = .ok time ∧
      time.zone = some (searchZone machine now tz) ∧ time.instant = .ok start := by
  cases now with
  | none =>
    cases started
    cases tz with
    | none =>
      simp only [resolve, Zone.ofMachine_eq (machine.tells_of_inner inner.1 inner.2), Except.bind]
      exact moderate.exists_shown inner
    | some zone => exact moderate.exists_shown inner
  | some time =>
    obtain ⟨wall, own, fold⟩ := time
    cases own with
    | none =>
      cases tz with
      | none =>
        simp only [resolve, Zone.ofMachine_eq (located rfl _ rfl rfl), Except.map]
        exact ⟨_, rfl, rfl, started⟩
      | some zone => exact ⟨_, rfl, rfl, started⟩
    | some own =>
      cases tz with
      | none => exact ⟨_, rfl, rfl, started⟩
      | some zone =>
        obtain ⟨shown, known, placed, taken⟩ := moderate.exists_shown inner
        have converted : DateTime.instant ⟨wall, some own, fold⟩ = .ok start := started
        -- A time is converted unless it is in the zone of the search already.
        obtain ⟨same, kept⟩ | moved := DateTime.inZone_cases ⟨wall, some own, fold⟩ zone
        · exact ⟨_, kept, same, converted⟩
        · refine ⟨shown, ?_, placed, taken⟩
          show DateTime.inZone _ zone = _
          rw [moved, converted]
          exact known

theorem exists_resolve_error (unlocated : ¬IsLocated machine clock now tz) :
    ∃ fault : Fault, fault.IsOffCalendar ∧ resolve clock now tz machine = .error fault := by
  simp only [IsLocated, Classical.not_imp, not_forall] at unlocated
  obtain ⟨rfl, ⟨wall, own, fold⟩, rfl, unzoned, untold⟩ := unlocated
  obtain ⟨tells, -⟩ | ⟨-, fault, failed, off⟩ := Zone.ofMachine_cases clock machine
  · exact absurd tells untold
  · cases unzoned
    exact ⟨fault, off, by simp only [resolve, failed, Except.map]⟩

end Resolved

namespace Rule

/-- Nothing that the search for runs after a time computes on the days of a horizon is a fault. -/
structure Unfailing (rule : Rule) (time : DateTime) (zone : Zone) (horizon : Nat) : Prop where
  steps : ∀ part, ∀ field ∈ rule.get part, ∀ rep,
    (field = .repetition rep ∨ ∃ shift, field = .shifted shift rep) → 0 < rep
  candidates : ∀ part, ∃ values, rule.candidates part = .ok values ∧
    ∀ n ∈ values, part.domain.contains n = true
  days : ∀ passed < horizon, ∃ date, time.wall.date.plusDays passed = .ok date ∧
    ∃ matched, rule.matchesDate date = .ok matched
  readings : ∀ date hour minute second, rule.Generates .hour hour → rule.Generates .minute minute →
    rule.Generates .second second → ∃ wall, Wall.atTime date hour minute second = .ok wall
  converted : ∀ wall, rule.AsksFor time.wall.date horizon wall →
    (∃ instant, DateTime.instant ⟨wall, some zone, false⟩ = .ok instant) ∧
      ∃ skipped, wall.isSkipped (some zone) = .ok skipped

section Unfailing

variable {rule : Rule} {zone : Zone} {time : DateTime} {start : Int} {horizon : Nat}

theorem step_positive {part : Part} {field : Field} (suits : field.valid part = true) {rep : Int}
    (stepped : field = .repetition rep ∨ ∃ shift, field = .shifted shift rep) : 0 < rep := by
  obtain rfl | ⟨shift, rfl⟩ := stepped
  · exact of_decide_eq_true (Bool.and_eq_true_iff.mp suits).1
  · exact of_decide_eq_true (Bool.and_eq_true_iff.mp suits).1

theorem IsFormed.contains_of_generates {part : Part} {n : Int} (formed : rule.IsFormed)
    (made : rule.Generates part n) : part.domain.low ≤ n ∧ n ≤ part.domain.high := by
  obtain ⟨values, known, member⟩ := made
  obtain ⟨others, same, -, within⟩ := formed.candidates_spec part
  rw [known] at same
  cases same
  exact within n member

theorem AsksFor.inner {firstDay : Date} {wall : Wall} (asked : rule.AsksFor firstDay horizon wall)
    (second : 2 ≤ firstDay.number) (last : firstDay.number + horizon ≤ lastDayNumber) :
    dayMicros ≤ wall.micros ∧ wall.micros + dayMicros < calendarMicros := by
  have notBefore := asked.notBefore
  have within := asked.within
  simp only [Wall.date, calendarMicros, lastDayNumber, dayMicros, secondMicros] at *
  omega

theorem second_le_number (moderate : zone.IsModerate) (placed : time.zone = some zone)
    (taken : time.instant = .ok start) (inner : IsInner start) : 2 ≤ time.wall.date.number := by
  have near := (moderate.wall_near placed taken).1
  have late := inner.1
  simp only [Wall.date, dayMicros, secondMicros] at *
  omega

theorem IsFormed.unfailing (formed : rule.IsFormed) (moderate : zone.IsModerate)
    (second : 2 ≤ time.wall.date.number) (last : time.wall.date.number + horizon ≤ lastDayNumber) :
    rule.Unfailing time zone horizon where
  steps part field member rep stepped := step_positive (formed part field member) stepped
  candidates part := by
    obtain ⟨values, known, -, within⟩ := formed.candidates_spec part
    exact ⟨values, known, fun n member => Domain.contains_iff.mpr (within n member)⟩
  days passed below :=
    ⟨⟨time.wall.date.number + passed, by omega, by omega⟩, Date.plusDays_eq_ok.mpr rfl,
      formed.matchesDate_spec _⟩
  readings date hour minute second hourMade minuteMade secondMade := by
    obtain ⟨hourLow, hourHigh⟩ : 0 ≤ hour ∧ hour ≤ 23 := formed.contains_of_generates hourMade
    obtain ⟨minuteLow, minuteHigh⟩ : 0 ≤ minute ∧ minute ≤ 59 :=
      formed.contains_of_generates minuteMade
    obtain ⟨secondLow, secondHigh⟩ : 0 ≤ second ∧ second ≤ 59 :=
      formed.contains_of_generates secondMade
    obtain ⟨wall, shown, -⟩ := Wall.atTime_eq_ok date ⟨hourLow, Int.lt_add_one_of_le hourHigh⟩
      ⟨minuteLow, Int.lt_add_one_of_le minuteHigh⟩ ⟨secondLow, Int.lt_add_one_of_le secondHigh⟩
    exact ⟨wall, shown⟩
  converted wall asked := by
    obtain ⟨universal, taken⟩ := moderate.instant_of_inner (asked.inner second last)
    obtain ⟨skipped, told, -⟩ := moderate.known.isSkipped_eq taken
    exact ⟨⟨_, taken⟩, skipped, told⟩

end Unfailing

/-- The runs of a rule that was read are found without a fault, however many are asked for, if two
days at least lie between the start and the ends of the calendar and the last day of the horizon
comes before the last one there is. Only a number of runs that cannot be counted is refused. Where the
zone of the machine is needed and cannot be told, there are no runs, and the fault is a year that the
calendar does not have. -/
theorem search_unfailing {rule : Rule} {machine : MachineZone} {clock start : Int}
    {now : Option DateTime} {tz : Option Zone} (read : rule.IsRead)
    (moderate : (searchZone machine now tz).IsModerate)
    (started : searchStart machine clock now tz = .ok start) (inner : IsInner start) :
    (IsLocated machine clock now tz →
      ∃ time, resolve clock now tz machine = .ok time ∧ ∀ horizon : Nat,
        time.wall.date.number + horizon ≤ lastDayNumber →
          rule.Unfailing time (searchZone machine now tz) horizon ∧
          (∀ limit, ∃ runs, rule.runs time horizon limit = ⟨runs, none⟩) ∧
          (∀ count ≤ greatestCount,
            ∃ runs, rule.simulate clock count now tz horizon machine = .ok runs) ∧
          (∀ count > greatestCount,
            rule.simulate clock count now tz horizon machine = .error .countAbove) ∧
          (horizon = defaultHorizon → ∃ run, rule.next clock now tz machine = .ok run)) ∧
    (¬IsLocated machine clock now tz →
      ∃ fault : Fault, fault.IsOffCalendar ∧ resolve clock now tz machine = .error fault ∧
        (∀ count horizon : Int, 0 < count → count ≤ greatestCount →
          rule.simulate clock count now tz horizon machine = .error fault) ∧
        rule.next clock now tz machine = .error fault) := by
  refine ⟨fun located => ?_, fun unlocated => ?_⟩
  · have formed := read.isFormed
    obtain ⟨time, resolved, placed, taken⟩ := exists_resolved moderate started inner located
    refine ⟨time, resolved, fun horizon last => ?_⟩
    have safe := formed.unfailing moderate (second_le_number moderate placed taken inner) last
    have inside : rule.Inside (searchZone machine now tz) time.wall.date horizon :=
      ⟨Nat.le_succ_of_le last, fun wall asked => (safe.converted wall asked).1⟩
    obtain ⟨found, -, whole⟩ := formed.runs_eq moderate.known placed taken inside
    have listed : ∀ limit, rule.runs time horizon limit = ⟨found.take limit, none⟩ :=
      fun limit => whole limit 0 (.inr rfl)
    refine ⟨safe, fun limit => ⟨_, listed limit⟩, fun count countable =>
      ⟨_, simulate_eq resolved listed countable⟩, fun count beyond => simulate_beyond_count beyond, ?_⟩
    -- The next run alone is sought over the standard horizon.
    rintro rfl
    obtain ⟨found, -, -, first⟩ := formed.next_eq moderate.known resolved placed taken inside
    exact ⟨_, first⟩
  · obtain ⟨fault, off, failed⟩ := exists_resolve_error unlocated
    refine ⟨fault, off, failed, fun count horizon positive countable => ?_, ?_⟩
    · rw [simulate, if_neg (Int.not_le.mpr positive), if_neg (Int.not_lt.mpr countable), failed]
      rfl
    · rw [next, failed]
      rfl

section SaoPaulo

theorem isModerate_saoPaulo : (Zone.named Zone.saoPaulo).IsModerate where
  known own same := by
    cases same
    decide
  short offset same := by cases same

theorem isInner_noonBeforeSkip : IsInner 63454287600000000 :=
  ⟨by decide, by decide⟩

theorem search_unfailing_saoPaulo :
    ∃ runs, midnight.simulate 0 3 (some noonBeforeSkip) none defaultHorizon = .ok runs ∧
      ∃ run, midnight.next 0 (some noonBeforeSkip) none = .ok run := by
  have zoned : IsLocated .universal 0 (some noonBeforeSkip) none := by
    rintro - time ⟨⟩ ⟨⟩
  have moderate : (searchZone .universal (some noonBeforeSkip) none).IsModerate :=
    isModerate_saoPaulo
  obtain ⟨found, -⟩ := search_unfailing (.inl ⟨.null, "rule", rfl⟩) moderate
    (show searchStart .universal 0 (some noonBeforeSkip) none = .ok 63454287600000000 from rfl)
    isInner_noonBeforeSkip
  obtain ⟨time, resolved, safe⟩ := found zoned
  cases resolved
  obtain ⟨-, -, simulated, -, next⟩ := safe defaultHorizon (by decide)
  obtain ⟨runs, listed⟩ := simulated 3 (by decide)
  exact ⟨runs, listed, next rfl⟩

/-- More runs than can be counted are refused, and so is a time without a zone while the clock of the
machine shows the first day of the calendar, whatever the rule. -/
theorem not_search_unfailing :
    midnight.IsRead ∧ (Zone.named Zone.saoPaulo).IsModerate ∧
      searchStart .universal 0 (some noonBeforeSkip) none = .ok 63454287600000000 ∧
      IsInner 63454287600000000 ∧
      (¬ ∃ runs, midnight.simulate 0 9223372036854775808 (some noonBeforeSkip) none defaultHorizon =
        .ok runs) ∧
      ¬ ∃ runs, midnight.simulate 0 3 (some { noonBeforeSkip with zone := none }) none
        defaultHorizon = .ok runs := by
  refine ⟨.inl ⟨.null, "rule", rfl⟩, isModerate_saoPaulo, rfl, isInner_noonBeforeSkip, ?_, ?_⟩
  · rintro ⟨runs, ⟨⟩⟩
  · rintro ⟨runs, ⟨⟩⟩

end SaoPaulo

end Rule

end Timetable
