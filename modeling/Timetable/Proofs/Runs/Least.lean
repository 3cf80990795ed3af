import Timetable.Proofs.Runs.Walk
import Timetable.Proofs.Zone.Taken

/-! The run that is planned is the least one.

A search for one run stops at the first that it meets. What it has passed over by then is no run, and
no run lies on a day before the one it begins with, so the run is the least one that is later than the
given time, however far ahead others may lie.
-/

set_option autoImplicit false

namespace Timetable

namespace Search

/-- What a search lists first is the first there is to find; where it lists nothing and meets no fault,
there is nothing to find. -/
structure Leads (runs : Runs) (found : List DateTime) : Prop where
  first : ∀ time others, runs.times = time :: others → found.head? = some time
  nothing : runs.times = [] → runs.fault = none → found = []

variable {search : Search} {date : Date} {limit passed days : Nat}

theorem Leads.none : Leads .none [] :=
  ⟨by rintro _ _ ⟨⟩, fun _ _ => rfl⟩

theorem Leads.cut (fault : Fault) (found : List DateTime) : Leads (.cut fault) found :=
  ⟨by rintro _ _ ⟨⟩, by rintro - ⟨⟩⟩

theorem runsOn_leads (clocks : List Clock) :
    Leads (search.runsOn date (limit + 1) clocks) (clocks.filterMap (search.found date)) := by
  induction clocks with
  | nil => exact .none
  | cons clock rest ih =>
    simp only [runsOn, if_neg (Nat.succ_ne_zero limit), List.filterMap_cons]
    cases known : search.runAt date clock with
    | error fault => exact .cut _ _
    | ok time =>
      rw [show search.found date clock = time by simp only [found, known]]
      cases time with
      | none => exact ih
      | some time =>
        refine ⟨fun other others listed => ?_, by rintro ⟨⟩⟩
        exact congrArg some (List.cons.inj listed).1

theorem runsFrom_leads : Leads (search.runsFrom (limit + 1) passed days)
    ((List.range' passed days).flatMap search.foundAfter) := by
  induction days generalizing passed with
  | zero => exact .none
  | succ days ih =>
    simp only [runsFrom, if_neg (Nat.succ_ne_zero limit), List.range'_succ, List.flatMap_cons,
      foundAfter]
    cases search.firstDay.plusDays passed with
    | error fault => exact .cut _ _
    | ok date =>
      simp only [foundOn]
      cases search.rule.matchesDate date with
      | error fault => exact .cut _ _
      | ok matched =>
        cases matched with
        | false => exact ih
        | true =>
          have today : Leads (search.runsOn date (limit + 1) search.clocks)
              (search.clocks.filterMap (search.found date)) := runsOn_leads search.clocks
          have headed : ∀ time others,
              (search.runsOn date (limit + 1) search.clocks).times = time :: others →
              (search.clocks.filterMap (search.found date) ++
                (List.range' (passed + 1) days).flatMap search.foundAfter).head? = some time := by
            intro time others listed
            rw [List.head?_append, today.first time others listed]
            rfl
          generalize search.runsOn date (limit + 1) search.clocks = runs at today headed
          obtain ⟨times, fault⟩ := runs
          cases fault with
          | some fault => exact ⟨headed, by rintro - ⟨⟩⟩
          | none =>
            cases times with
            | nil =>
              rw [today.nothing rfl rfl]
              exact ih
            | cons time rest =>
              refine ⟨fun other others listed => ?_, by rintro ⟨⟩⟩
              obtain rfl := (List.cons.inj listed).1
              exact headed time rest rfl

end Search

namespace Rule

structure IsRun (rule : Rule) (zone : Zone) (start : Instant) (time : DateTime) : Prop where
  /-- The rule asks for it on some day. -/
  asked : ∃ firstDay horizon, rule.AsksFor firstDay horizon time.wall
  /-- Clocks in the zone first show it at its own instant, which is later. -/
  shown : ∃ universal : Wall, time.instant = .ok (universal.micros : Int) ∧
    zone.FirstShows universal time.wall ∧ start < (universal.micros : Int)
  placed : time = ⟨time.wall, some zone, false⟩

structure IsLeastRun (rule : Rule) (zone : Zone) (start : Instant) (time : DateTime) : Prop where
  run : rule.IsRun zone start time
  least : ∀ other, rule.IsRun zone start other → other = time ∨ Precedes time other

variable {rule : Rule} {zone : Zone} {start : Instant} {time run other : DateTime}
  {universal : Wall}

theorem IsRun.isAt (run : rule.IsRun zone start time) :
    ∃ universal : Wall, time.IsAt zone universal ∧ start < (universal.micros : Int) := by
  obtain ⟨universal, taken, first, later⟩ := run.shown
  exact ⟨universal, ⟨by rw [run.placed], taken, first.shown⟩, later⟩

theorem IsRun.notBefore (known : zone.IsKnown) (shown : time.IsAt zone universal)
    (run : rule.IsRun zone universal.micros other) :
    time.wall.date.number ≤ other.wall.date.number := by
  obtain ⟨further, reached, later⟩ := run.isAt
  have taken := reached.taken
  rw [run.placed] at taken
  have ordered := known.lt_of_shown_later shown.shown taken reached.shown (Int.ofNat_lt.mp later)
  apply Nat.le_of_not_lt
  intro sooner
  exact Nat.lt_asymm ordered (Wall.micros_lt_of_date_lt sooner)

theorem IsRun.precedes (known : zone.IsKnown) (run : rule.IsRun zone start time)
    (further : rule.IsRun zone start other) (ordered : time.wall.micros ≤ other.wall.micros) :
    other = time ∨ Precedes time other := by
  rcases Nat.lt_or_eq_of_le ordered with less | equal
  · obtain ⟨instant, shown, -⟩ := run.isAt
    obtain ⟨later, shownLater, -⟩ := further.isAt
    have taken := shown.taken
    have takenLater := shownLater.taken
    rw [run.placed] at taken
    rw [further.placed] at takenLater
    have before := known.micros_lt taken shown.shown takenLater less
    exact .inr ⟨_, _, shown.taken, shownLater.taken, Int.ofNat_lt.mpr before⟩
  · left
    have same : other.wall = time.wall := Wall.ext_micros equal.symm
    rw [run.placed, further.placed, same]

/-- A search for the runs after a time goes on from its instant, and begins on its day. -/
theorem after?_eq_some {search : Search} (begun : Search.after? rule time = .ok (some search)) :
    ∃ start hours minutes seconds, time.instant = .ok start ∧ rule.TimesAre hours minutes seconds ∧
      search = ⟨rule, time.zone.getD .universal, start, time.wall.date,
        Clock.combinations hours minutes seconds⟩ := by
  simp only [Search.after?, bind, Except.bind, pure, Except.pure] at begun
  cases hours : rule.candidates .hour with
  | error fault => rw [hours] at begun; cases begun
  | ok hourly =>
    cases minutes : rule.candidates .minute with
    | error fault => rw [hours, minutes] at begun; cases begun
    | ok minutely =>
      cases seconds : rule.candidates .second with
      | error fault => rw [hours, minutes, seconds] at begun; cases begun
      | ok secondly =>
        simp only [hours, minutes, seconds] at begun
        split at begun
        · cases begun
        · cases taken : time.instant with
          | error fault => rw [taken] at begun; cases begun
          | ok start =>
            rw [taken] at begun
            cases begun
            exact ⟨start, hourly, minutely, secondly, rfl, ⟨hours, minutes, seconds⟩, rfl⟩

theorem nextRun_eq_some (found : rule.nextRun time = .ok (some run)) :
    ∃ search, Search.after? rule time = .ok (some search) ∧
      (search.foundWithin defaultHorizon).head? = some run := by
  rw [nextRun, runs] at found
  split at found
  · cases found
  · cases found
  · next search begun =>
    refine ⟨search, begun, ?_⟩
    have leads : Search.Leads (search.runsFrom 1 0 defaultHorizon)
        (search.foundWithin defaultHorizon) := Search.runsFrom_leads
    unfold Runs.first at found
    split at found
    · next listed =>
      cases found
      exact leads.first _ _ listed
    · cases found
    · cases found

theorem instant_of_nextRun (found : rule.nextRun time = .ok (some run)) :
    ∃ start, time.instant = .ok start := by
  obtain ⟨search, begun, -⟩ := nextRun_eq_some found
  obtain ⟨start, -, -, -, taken, -⟩ := after?_eq_some begun
  exact ⟨start, taken⟩

theorem candidates_increasing {part : Part} {values : List Int}
    (known : rule.candidates part = .ok values) : values.Pairwise (· < ·) := by
  rw [candidates] at known
  cases generated : generated part (rule.get part) with
  | error fault => rw [generated] at known; cases known
  | ok numbers =>
    rw [generated] at known
    cases known
    exact pairwise_foldr_insertIncreasing

theorem TimesAre.increasing {hours minutes seconds : List Int}
    (times : rule.TimesAre hours minutes seconds) :
    (Clock.combinations hours minutes seconds).Pairwise Clock.Before :=
  Clock.pairwise_combinations (candidates_increasing times.hours)
    (candidates_increasing times.minutes) (candidates_increasing times.seconds)

end Rule

namespace Search

variable {search : Search} {date : Date} {days : Nat} {time : DateTime}
  {hours minutes seconds : List Int}

theorem isAt_of_runAt {clock : Clock} {time : DateTime} (known : search.zone.IsKnown)
    (found : search.runAt date clock = .ok (some time)) :
    time = ⟨time.wall, some search.zone, false⟩ ∧ ∃ universal : Wall,
      time.IsAt search.zone universal ∧ search.after < (universal.micros : Int) := by
  have shown := wall_of_runAt found
  obtain ⟨start, taken⟩ : ∃ start,
      DateTime.instant ⟨time.wall, some search.zone, false⟩ = .ok start := by
    simp only [runAt, shown, bind, Except.bind] at found
    cases taken : DateTime.instant ⟨time.wall, some search.zone, false⟩ with
    | error fault =>
      rw [taken] at found
      cases found
    | ok start => exact ⟨start, rfl⟩
  obtain ⟨universal, rfl, -⟩ := Zone.instant_eq_ok.mp taken
  obtain ⟨other, again, iff⟩ := runAt_eq known shown taken
  obtain ⟨placed, showing, later⟩ := (iff time).mp (Except.ok.inj (again.symm.trans found))
  refine ⟨placed, universal, ⟨?_, ?_, showing⟩, later⟩
  · rw [placed]
  · rw [placed]
    exact taken

theorem isRun_of_mem (known : search.zone.IsKnown)
    (times : search.rule.TimesAre hours minutes seconds)
    (clocks : search.clocks = Clock.combinations hours minutes seconds)
    (listed : time ∈ search.foundWithin days) :
    search.rule.IsRun search.zone search.after time ∧
      time.wall.date.number < search.firstDay.number + days := by
  obtain ⟨passed, within, listed⟩ := List.mem_flatMap.mp listed
  obtain ⟨date, day, matched, clock, member, ran⟩ := mem_foundAfter.mp listed
  obtain ⟨placed, universal, reached, later⟩ := isAt_of_runAt known ran
  have taken := reached.taken
  rw [placed] at taken
  rw [clocks] at member
  have asked : search.rule.AsksFor search.firstDay days time.wall :=
    (Rule.asksFor_iff times).mpr
      ⟨passed, by simpa using within, date, day, matched, clock, member, wall_of_runAt ran⟩
  exact ⟨⟨⟨_, _, asked⟩, ⟨universal, reached.taken,
    known.firstShows_of_shows taken reached.shown, later⟩, placed⟩, asked.within⟩

theorem mem_of_isRun (known : search.zone.IsKnown)
    (times : search.rule.TimesAre hours minutes seconds)
    (clocks : search.clocks = Clock.combinations hours minutes seconds)
    (run : search.rule.IsRun search.zone search.after time)
    (notBefore : search.firstDay.number ≤ time.wall.date.number)
    (within : time.wall.date.number < search.firstDay.number + days) :
    time ∈ search.foundWithin days := by
  obtain ⟨firstDay, horizon, asked⟩ := run.asked
  obtain ⟨passed, below, date, day, matched, clock, member, read⟩ :=
    (Rule.asksFor_iff times).mp { asked with notBefore := notBefore, within := within }
  obtain ⟨universal, reached, later⟩ := run.isAt
  have taken := reached.taken
  rw [run.placed] at taken
  obtain ⟨met, ran, iff⟩ := runAt_eq known read taken
  rw [(iff time).mpr ⟨run.placed, reached.shown, later⟩] at ran
  rw [← clocks] at member
  exact List.mem_flatMap.mpr
    ⟨passed, by simpa using below, mem_foundAfter.mpr ⟨date, day, matched, clock, member, ran⟩⟩

end Search

namespace Rule

variable {rule : Rule} {zone : Zone} {start : Instant} {time run other : DateTime}
  {universal : Wall}

theorem isLeastRun_of_nextRun (known : zone.IsKnown) (shown : time.IsAt zone universal)
    (found : rule.nextRun time = .ok (some run)) :
    rule.IsLeastRun zone universal.micros run := by
  obtain ⟨search, begun, first⟩ := nextRun_eq_some found
  obtain ⟨start, hours, minutes, seconds, taken, times, same⟩ := after?_eq_some begun
  rw [shown.placed, ← Except.ok.inj (shown.taken.symm.trans taken)] at same
  obtain ⟨rfl, rfl, after, day, clocks⟩ :
      search.rule = rule ∧ search.zone = zone ∧ search.after = universal.micros ∧
        search.firstDay = time.wall.date ∧
          search.clocks = Clock.combinations hours minutes seconds :=
    same ▸ ⟨rfl, rfl, rfl, rfl, rfl⟩
  rw [← after]
  obtain ⟨isRun, near⟩ :=
    Search.isRun_of_mem known times clocks (List.mem_of_head? first)
  refine ⟨isRun, fun other further => isRun.precedes known further ?_⟩
  have notBefore := IsRun.notBefore known shown (after ▸ further)
  rw [← day] at notBefore
  by_cases within : other.wall.date.number < search.firstDay.number + defaultHorizon
  · -- Another run on one of the days of the search is found too, and not before the first one.
    have listed := Search.mem_of_isRun known times clocks further notBefore within
    have ordered := Search.pairwise_foundWithin (clocks ▸ times.increasing) defaultHorizon
    obtain ⟨rest, all⟩ := List.head?_eq_some_iff.mp first
    rw [all] at listed ordered
    rcases List.mem_cons.mp listed with rfl | listed
    · exact Nat.le_refl _
    · exact Nat.le_of_lt ((List.pairwise_cons.mp ordered).1 other listed)
  · exact Nat.le_of_lt (Wall.micros_lt_of_date_lt (by omega))

theorem IsFormed.nextRun_of_isRun (formed : rule.IsFormed) (known : zone.IsKnown)
    (shown : time.IsAt zone universal)
    (inside : rule.Inside zone time.wall.date defaultHorizon)
    (further : rule.IsRun zone universal.micros other)
    (within : other.wall.date.number < time.wall.date.number + defaultHorizon) :
    ∃ run, rule.nextRun time = .ok (some run) := by
  obtain ⟨found, exact, listed⟩ := formed.runs_eq known shown.placed shown.taken inside
  obtain ⟨firstDay, horizon, asked⟩ := further.asked
  obtain ⟨own, taken, shows, later⟩ := further.shown
  have member : other ∈ found := (exact.complete other).mpr ⟨other.wall, own, further.placed,
    { asked with notBefore := further.notBefore known shown, within := within }, shows, later⟩
  obtain ⟨run, rest, rfl⟩ := List.exists_cons_of_ne_nil (List.ne_nil_of_mem member)
  have first : rule.runs time defaultHorizon 1 = ⟨[run], none⟩ := listed 1 0 (.inr rfl)
  exact ⟨run, by rw [nextRun, first]; rfl⟩

end Rule

end Timetable
