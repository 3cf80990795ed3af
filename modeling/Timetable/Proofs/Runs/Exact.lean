import Timetable.Proofs.Calendar.Clock
import Timetable.Proofs.Rule.Formed
import Timetable.Proofs.Runs.Search
import Timetable.Proofs.Zone.Shown

/-! The exact runs of a rule.

Candidates are enumerated by what calendar and clock show, while runs are compared as instants. In
a known zone both orders agree on the readings that clocks show: the runs are the readings that the
rule asks for, that clocks show, and that they first show after the given time.
-/

set_option autoImplicit false

namespace Timetable

namespace Rule

/-- A number is among those that the rule generates for a part. -/
def Generates (rule : Rule) (part : Part) (n : Int) : Prop :=
  ∃ values, rule.candidates part = .ok values ∧ n ∈ values

/-- The rule fires at a reading on one of the days of a horizon, as far as calendar and clock go. -/
structure AsksFor (rule : Rule) (firstDay : Date) (horizon : Nat) (wall : Wall) : Prop where
  notBefore : firstDay.number ≤ wall.date.number
  within : wall.date.number < firstDay.number + horizon
  matched : rule.matchesDate wall.date = .ok true
  hour : rule.Generates .hour wall.hour
  minute : rule.Generates .minute wall.minute
  second : rule.Generates .second wall.second
  whole : wall.microsecond = 0

/-- The list holds the runs after an instant on the days of a horizon, all of them, in order. -/
structure RunsExactly (rule : Rule) (zone : Zone) (start : Instant) (firstDay : Date) (horizon : Nat)
    (runs : List DateTime) : Prop where
  increasing : runs.Pairwise fun earlier later => ∃ instant further,
    earlier.instant = .ok instant ∧ later.instant = .ok further ∧ instant < further
  instants : ∀ time ∈ runs, ∃ universal : Wall,
    time.instant = .ok (universal.micros : Int) ∧ zone.FirstShows universal time.wall
  complete : ∀ time, time ∈ runs ↔ ∃ wall universal, time = ⟨wall, some zone, false⟩ ∧
    rule.AsksFor firstDay horizon wall ∧ zone.FirstShows universal wall ∧
      start < (universal.micros : Int)

end Rule

namespace Search

variable {search : Search} {date : Date} {clock : Clock} {wall universal : Wall}

/-- A candidate is a run if clocks show it and first do so later than the given time. -/
theorem runAt_eq (known : search.zone.IsKnown)
    (shown : Wall.atTime date clock.hour clock.minute clock.second = .ok wall)
    (taken : DateTime.instant ⟨wall, some search.zone, false⟩ = .ok (universal.micros : Int)) :
    ∃ found, search.runAt date clock = .ok found ∧ ∀ time, found = some time ↔
      time = ⟨wall, some search.zone, false⟩ ∧ search.zone.Shows universal wall ∧
        search.after < (universal.micros : Int) := by
  simp only [runAt, shown, taken, bind, Except.bind, pure, Except.pure]
  by_cases late : (universal.micros : Int) ≤ search.after
  · rw [if_pos late]
    refine ⟨none, rfl, fun time => ⟨by rintro ⟨⟩, fun run => ?_⟩⟩
    exact absurd run.2.2 (Int.not_lt.mpr late)
  · rw [if_neg late]
    have later := Int.not_le.mp late
    generalize search.zone = zone at known taken ⊢
    obtain ⟨skipped, told, spared⟩ := known.isSkipped_eq taken
    cases zone with
    | fixed offset =>
      have shown := Zone.shows_of_fixed taken
      exact ⟨_, rfl, fun time =>
        ⟨fun same => ⟨(Option.some.inj same).symm, shown, later⟩, fun run => run.1 ▸ rfl⟩⟩
    | named own =>
      simp only [told]
      cases skipped with
      | true =>
        refine ⟨none, rfl, fun time => ⟨by rintro ⟨⟩, fun run => ?_⟩⟩
        cases spared.mpr run.2.1
      | false =>
        exact ⟨_, rfl, fun time =>
          ⟨fun same => ⟨(Option.some.inj same).symm, spared.mp rfl, later⟩, fun run => run.1 ▸ rfl⟩⟩

end Search

namespace Rule

variable {rule : Rule}

theorem length_le_of_pairwise {list : List Int} {low high : Int}
    (increasing : list.Pairwise (· < ·)) (within : ∀ n ∈ list, low ≤ n ∧ n ≤ high) :
    list.length ≤ (high + 1 - low).toNat := by
  induction list generalizing low with
  | nil => exact Nat.zero_le _
  | cons first rest ih =>
    obtain ⟨above, others⟩ := List.pairwise_cons.mp increasing
    rw [List.forall_mem_cons] at within
    have shorter : rest.length ≤ (high + 1 - (first + 1)).toNat :=
      ih others fun n member => ⟨above n member, (within.2 n member).2⟩
    rw [List.length_cons]
    omega

structure TimesAre (rule : Rule) (hours minutes seconds : List Int) : Prop where
  hours : rule.candidates .hour = .ok hours
  minutes : rule.candidates .minute = .ok minutes
  seconds : rule.candidates .second = .ok seconds

theorem generates_iff {part : Part} {values : List Int} {n : Int}
    (known : rule.candidates part = .ok values) : rule.Generates part n ↔ n ∈ values := by
  constructor
  · rintro ⟨others, same, member⟩
    rw [known] at same
    cases same
    exact member
  · exact fun member => ⟨values, known, member⟩

/-- The readings that the rule asks for are those that a search goes through. -/
theorem asksFor_iff {hours minutes seconds : List Int} (times : rule.TimesAre hours minutes seconds)
    {firstDay : Date} {horizon : Nat} {wall : Wall} :
    rule.AsksFor firstDay horizon wall ↔ ∃ passed < horizon, ∃ date,
      firstDay.plusDays passed = .ok date ∧ rule.matchesDate date = .ok true ∧
        ∃ clock ∈ Clock.combinations hours minutes seconds,
          Wall.atTime date clock.hour clock.minute clock.second = .ok wall := by
  constructor
  · rintro ⟨notBefore, within, matched, hour, minute, second, whole⟩
    refine ⟨wall.date.number - firstDay.number, by omega, wall.date,
      Date.plusDays_eq_ok.mpr (by omega), matched, ⟨wall.hour, wall.minute, wall.second⟩,
      Clock.mem_combinations.mpr ⟨?_, ?_, ?_⟩, Wall.atTime_eq_ok_iff.mpr ⟨rfl, rfl, rfl, rfl, whole⟩⟩
    · exact (generates_iff times.hours).mp hour
    · exact (generates_iff times.minutes).mp minute
    · exact (generates_iff times.seconds).mp second
  · rintro ⟨passed, below, date, known, matched, clock, member, shown⟩
    obtain ⟨sameDate, sameHour, sameMinute, sameSecond, whole⟩ := Wall.atTime_eq_ok_iff.mp shown
    obtain ⟨hourIn, minuteIn, secondIn⟩ := Clock.mem_combinations.mp member
    have number := Date.plusDays_eq_ok.mp known
    rw [← sameDate] at number matched
    refine ⟨by omega, by omega, matched, ?_, ?_, ?_, whole⟩
    · exact (generates_iff times.hours).mpr (sameHour ▸ hourIn)
    · exact (generates_iff times.minutes).mpr (sameMinute ▸ minuteIn)
    · exact (generates_iff times.seconds).mpr (sameSecond ▸ secondIn)

end Rule

/-- A search goes through the readings that its rule asks for, in order, and each of them is taken
for a time of the calendar. -/
structure Search.Enumerates (search : Search) (horizon : Nat) : Prop where
  known : search.zone.IsKnown
  formed : search.rule.IsFormed
  increasing : search.clocks.Pairwise Clock.Before
  days : search.firstDay.number + horizon ≤ lastDayNumber + 1
  shown : ∀ date, ∀ clock ∈ search.clocks,
    ∃ wall, Wall.atTime date clock.hour clock.minute clock.second = .ok wall
  asked : ∀ wall, search.rule.AsksFor search.firstDay horizon wall ↔ ∃ passed < horizon, ∃ date,
    search.firstDay.plusDays passed = .ok date ∧ search.rule.matchesDate date = .ok true ∧
      ∃ clock ∈ search.clocks, Wall.atTime date clock.hour clock.minute clock.second = .ok wall
  taken : ∀ wall, search.rule.AsksFor search.firstDay horizon wall → ∃ universal : Wall,
    DateTime.instant ⟨wall, some search.zone, false⟩ = .ok (universal.micros : Int)

namespace Search.Enumerates

variable {search : Search} {horizon : Nat} {time : DateTime}

theorem mem_foundWithin (enumerates : search.Enumerates horizon) :
    time ∈ search.foundWithin horizon ↔ ∃ wall universal,
      time = ⟨wall, some search.zone, false⟩ ∧ search.rule.AsksFor search.firstDay horizon wall ∧
        time.instant = .ok ((universal : Wall).micros : Int) ∧
          search.zone.Shows universal wall ∧ search.after < (universal.micros : Int) := by
  rw [foundWithin, List.mem_flatMap]
  constructor
  · rintro ⟨passed, within, found⟩
    obtain ⟨date, day, matched, clock, member, run⟩ := mem_foundAfter.mp found
    obtain ⟨wall, shown⟩ := enumerates.shown date clock member
    have asked := (enumerates.asked wall).mpr
      ⟨passed, by simpa using within, date, day, matched, clock, member, shown⟩
    obtain ⟨universal, taken⟩ := enumerates.taken wall asked
    obtain ⟨only, known, iff⟩ := runAt_eq enumerates.known shown taken
    obtain ⟨rfl, showing, later⟩ := (iff time).mp (Except.ok.inj (known.symm.trans run))
    exact ⟨wall, universal, rfl, asked, taken, showing, later⟩
  · rintro ⟨wall, universal, rfl, asked, taken, showing, later⟩
    obtain ⟨passed, below, date, day, matched, clock, member, shown⟩ :=
      (enumerates.asked wall).mp asked
    obtain ⟨only, known, iff⟩ := runAt_eq enumerates.known shown taken
    rw [(iff _).mpr ⟨rfl, showing, later⟩] at known
    exact ⟨passed, by simpa using below,
      mem_foundAfter.mpr ⟨date, day, matched, clock, member, known⟩⟩

theorem safe (enumerates : search.Enumerates horizon) :
    ∀ passed < horizon, ∃ date, search.firstDay.plusDays passed = .ok date ∧
      search.SafeOn date := by
  intro passed below
  have positive := search.firstDay.positive
  have days := enumerates.days
  refine ⟨⟨search.firstDay.number + passed, by omega, by omega⟩, Date.plusDays_eq_ok.mpr rfl,
    enumerates.formed.matchesDate_spec _, fun matched clock member => ?_⟩
  obtain ⟨wall, shown⟩ := enumerates.shown _ clock member
  obtain ⟨universal, taken⟩ := enumerates.taken wall ((enumerates.asked wall).mpr
    ⟨passed, below, _, Date.plusDays_eq_ok.mpr rfl, matched, clock, member, shown⟩)
  obtain ⟨found, known, -⟩ := runAt_eq enumerates.known shown taken
  exact ⟨found, known⟩

theorem runsExactly (enumerates : search.Enumerates horizon) :
    search.rule.RunsExactly search.zone search.after search.firstDay horizon
      (search.foundWithin horizon) where
  increasing := by
    apply (pairwise_foundWithin enumerates.increasing horizon).imp_of_mem
    intro earlier later found foundLater ordered
    obtain ⟨wall, universal, rfl, -, taken, showing, -⟩ := enumerates.mem_foundWithin.mp found
    obtain ⟨other, further, rfl, -, takenLater, -⟩ := enumerates.mem_foundWithin.mp foundLater
    exact ⟨_, _, taken, takenLater,
      Int.ofNat_lt.mpr (enumerates.known.micros_lt taken showing takenLater ordered)⟩
  instants := by
    intro time found
    obtain ⟨wall, universal, rfl, -, taken, showing, -⟩ := enumerates.mem_foundWithin.mp found
    exact ⟨universal, taken, enumerates.known.firstShows_of_shows taken showing⟩
  complete := by
    intro time
    rw [enumerates.mem_foundWithin]
    constructor
    · rintro ⟨wall, universal, rfl, asked, taken, showing, later⟩
      exact ⟨wall, universal, rfl, asked, enumerates.known.firstShows_of_shows taken showing, later⟩
    · rintro ⟨wall, universal, rfl, asked, first, later⟩
      obtain ⟨other, taken⟩ := enumerates.taken wall asked
      have same := (enumerates.known.firstShows_of_shows taken first.shown).unique first
      exact ⟨wall, universal, rfl, asked, same ▸ taken, first.shown, later⟩

end Search.Enumerates

namespace Rule

theorem IsFormed.times {rule : Rule} (formed : rule.IsFormed) :
    ∃ hours minutes seconds, rule.TimesAre hours minutes seconds ∧
      (Clock.combinations hours minutes seconds).Pairwise Clock.Before ∧
      (Clock.combinations hours minutes seconds).length ≤ 86400 ∧
      ∀ date, ∀ clock ∈ Clock.combinations hours minutes seconds,
        ∃ wall, Wall.atTime date clock.hour clock.minute clock.second = .ok wall := by
  obtain ⟨hours, knownHours, increasingHours, hoursIn⟩ := formed.candidates_spec .hour
  obtain ⟨minutes, knownMinutes, increasingMinutes, minutesIn⟩ := formed.candidates_spec .minute
  obtain ⟨seconds, knownSeconds, increasingSeconds, secondsIn⟩ := formed.candidates_spec .second
  refine ⟨hours, minutes, seconds, ⟨knownHours, knownMinutes, knownSeconds⟩,
    Clock.pairwise_combinations increasingHours increasingMinutes increasingSeconds, ?_,
    fun date clock member => ?_⟩
  · have fewHours : hours.length ≤ 24 := length_le_of_pairwise increasingHours hoursIn
    have fewMinutes : minutes.length ≤ 60 := length_le_of_pairwise increasingMinutes minutesIn
    have fewSeconds : seconds.length ≤ 60 := length_le_of_pairwise increasingSeconds secondsIn
    rw [Clock.length_combinations]
    exact Nat.mul_le_mul fewHours (Nat.mul_le_mul fewMinutes fewSeconds)
  · obtain ⟨hourIn, minuteIn, secondIn⟩ := Clock.mem_combinations.mp member
    obtain ⟨hourLow, hourHigh⟩ : 0 ≤ clock.hour ∧ clock.hour ≤ 23 := hoursIn _ hourIn
    obtain ⟨minuteLow, minuteHigh⟩ : 0 ≤ clock.minute ∧ clock.minute ≤ 59 := minutesIn _ minuteIn
    obtain ⟨secondLow, secondHigh⟩ : 0 ≤ clock.second ∧ clock.second ≤ 59 := secondsIn _ secondIn
    obtain ⟨wall, shown, -⟩ := Wall.atTime_eq_ok date ⟨hourLow, Int.lt_add_one_of_le hourHigh⟩
      ⟨minuteLow, Int.lt_add_one_of_le minuteHigh⟩ ⟨secondLow, Int.lt_add_one_of_le secondHigh⟩
    exact ⟨wall, shown⟩

/-- A rule is searched for the readings that it asks for, unless it asks for no time of day. -/
theorem IsFormed.searched {rule : Rule} {now : DateTime} {zone : Zone} {start : Instant}
    {horizon : Nat} (formed : rule.IsFormed) (known : zone.IsKnown) (placed : now.zone = some zone)
    (started : now.instant = .ok start)
    (days : now.wall.date.number + horizon ≤ lastDayNumber + 1)
    (converted : ∀ wall, rule.AsksFor now.wall.date horizon wall →
      ∃ instant, DateTime.instant ⟨wall, some zone, false⟩ = .ok instant) :
    ∃ search : Search, search.Enumerates horizon ∧ search.clocks.length ≤ 86400 ∧
      rule.RunsExactly zone start now.wall.date horizon (search.foundWithin horizon) ∧
      (Search.after? rule now = .ok (some search) ∨
        search.clocks = [] ∧ Search.after? rule now = .ok none) := by
  obtain ⟨hours, minutes, seconds, times, increasing, bounded, shown⟩ := formed.times
  let search : Search :=
    ⟨rule, zone, start, now.wall.date, Clock.combinations hours minutes seconds⟩
  have enumerates : search.Enumerates horizon := by
    refine ⟨known, formed, increasing, days, shown, fun wall => asksFor_iff times,
      fun wall asked => ?_⟩
    obtain ⟨instant, taken⟩ := converted wall asked
    obtain ⟨universal, rfl, -⟩ := Zone.instant_eq_ok.mp taken
    exact ⟨universal, taken⟩
  refine ⟨search, enumerates, bounded, enumerates.runsExactly, ?_⟩
  simp only [Search.after?, times.hours, times.minutes, times.seconds, started, placed, bind,
    Except.bind, pure, Except.pure, Option.getD_some]
  by_cases empty : (hours.isEmpty || minutes.isEmpty || seconds.isEmpty) = true
  · rw [if_pos empty]
    exact .inr ⟨Clock.combinations_eq_nil empty, rfl⟩
  · rw [if_neg empty]
    exact .inl rfl

/-- The runs of a rule that was read are exactly the readings that it asks for, that clocks in the zone
show, and that they first show after the given time; they come in order, and none is missed or
repeated. -/
theorem allRuns_exact {rule : Rule} {now : DateTime} {zone : Zone} {start : Instant} {horizon : Nat}
    (read : rule.IsRead) (known : zone.IsKnown) (placed : now.zone = some zone)
    (started : now.instant = .ok start)
    (days : now.wall.date.number + horizon ≤ lastDayNumber + 1)
    (converted : ∀ wall, rule.AsksFor now.wall.date horizon wall →
      ∃ instant, DateTime.instant ⟨wall, some zone, false⟩ = .ok instant) :
    ∃ runs, rule.allRuns now horizon = ⟨runs, none⟩ ∧
      rule.RunsExactly zone start now.wall.date horizon runs := by
  obtain ⟨search, enumerates, bounded, exactly, begun⟩ :=
    read.isFormed.searched known placed started days converted
  refine ⟨search.foundWithin horizon, ?_, exactly⟩
  rcases begun with begun | ⟨timeless, begun⟩
  · have enough := Nat.le_trans (search.length_foundWithin horizon)
      (Nat.mul_le_mul_left horizon bounded)
    rw [allRuns, runs, begun]
    exact Search.runsFrom_eq_foundWithin enumerates.safe enough
  · rw [allRuns, runs, begun, search.foundWithin_eq_nil timeless]
    rfl

/-- Noon in São Paulo, on the day before one whose midnight is skipped. -/
def noonBeforeSkip : DateTime :=
  ⟨⟨63454276800000000, by decide⟩, some (.named Zone.saoPaulo), false⟩

theorem allRuns_exact_saoPaulo :
    noonBeforeSkip.instant = .ok 63454287600000000 ∧
      ∃ runs, midnight.allRuns noonBeforeSkip 3 = ⟨runs, none⟩ ∧
        midnight.RunsExactly (.named Zone.saoPaulo) 63454287600000000 noonBeforeSkip.wall.date 3
          runs := by
  refine ⟨rfl, allRuns_exact (.inl ⟨.null, "rule", rfl⟩) ?_ rfl rfl (by decide) ?_⟩
  · rintro own ⟨⟩
    decide
  · intro wall asked
    apply Zone.instant_of_inner (by decide)
    have notBefore : 734425 ≤ wall.date.number := asked.notBefore
    have within : wall.date.number < 734425 + 3 := asked.within
    simp only [Wall.date, calendarMicros, lastDayNumber, dayMicros, secondMicros] at *
    omega

/-- The next midnight is passed over, and the first run is the one after it. -/
example : midnight.allRuns noonBeforeSkip 3 =
    ⟨[⟨⟨63454406400000000, by decide⟩, some (.named Zone.saoPaulo), false⟩], none⟩ := by
  rfl

end Rule

end Timetable
