import Timetable.Proofs.Runs.Exact

/-! Going on from run to run.

The search for the run after a run starts over, at the local day of that run and with days of its
own. It goes through the readings of the first search that are left, in the same order, and through
later days only when these are used up. So going on from run to run meets the runs of one search.
-/

set_option autoImplicit false

namespace Timetable

namespace Search

variable {search : Search}

theorem runsFrom_of_enough {limit passed days more : Nat}
    (safe : ∀ further < days, ∃ date, search.firstDay.plusDays (passed + further) = .ok date ∧
      search.SafeOn date)
    (enough : limit ≤ ((List.range' passed days).flatMap search.foundAfter).length) :
    search.runsFrom limit passed (days + more) = search.runsFrom limit passed days := by
  -- The induction is on the days that suffice; what the first of them has lowers the limit for the rest.
  induction days generalizing limit passed with
  | zero =>
    have reached : limit = 0 := Nat.le_zero.mp enough
    cases more with
    | zero => rfl
    | succ more => simp [runsFrom, reached, Runs.none]
  | succ days ih =>
    obtain ⟨date, known, matched, runs⟩ := safe 0 (Nat.succ_pos days)
    rw [Nat.add_zero] at known
    have later : ∀ limit, limit ≤ ((List.range' (passed + 1) days).flatMap
        search.foundAfter).length →
        search.runsFrom limit (passed + 1) (days + more) =
          search.runsFrom limit (passed + 1) days := by
      refine fun limit enough => ih (fun further below => ?_) enough
      have next := safe (further + 1) (Nat.succ_lt_succ below)
      rwa [← Nat.add_assoc, Nat.add_right_comm] at next
    obtain ⟨matched, asked⟩ := matched
    simp only [List.range'_succ, List.flatMap_cons, List.length_append, foundAfter, known, foundOn,
      asked] at enough
    rw [Nat.add_right_comm]
    simp only [runsFrom, known, asked]
    cases matched with
    | false => rw [later limit (by simpa using enough)]
    | true =>
      simp only [runsOn_eq (runs asked)]
      simp only at enough
      rw [later _ (by rw [List.length_take]; omega)]

end Search

namespace DateTime

theorem inZone_cases (time : DateTime) (zone : Zone) :
    time.zone = some zone ∧ time.inZone zone = .ok time ∨
      time.inZone zone = time.instant.bind (ofInstant zone) := by
  simp only [inZone]
  split
  next own other same =>
    split
    next agree => exact .inl ⟨by rw [same, agree], rfl⟩
    next => exact .inr rfl
  next => exact .inr rfl

theorem zone_of_inZone {zone : Zone} {time other : DateTime}
    (moved : time.inZone zone = .ok other) : other.zone = some zone := by
  obtain ⟨own, same⟩ | converted := inZone_cases time zone
  · rw [same] at moved
    cases moved
    exact own
  · rw [converted] at moved
    cases taken : time.instant with
    | error fault =>
      rw [taken] at moved
      cases moved
    | ok instant =>
      rw [taken] at moved
      exact zone_of_ofInstant moved

end DateTime

namespace Rule

variable {rule : Rule} {zone : Zone} {start : Instant} {firstDay : Date} {horizon inner : Nat}

/-- The days of a horizon lie in the calendar, and so do the readings that the rule asks for on
them, as instants. -/
structure Inside (rule : Rule) (zone : Zone) (firstDay : Date) (horizon : Nat) : Prop where
  days : firstDay.number + horizon ≤ lastDayNumber + 1
  converted : ∀ wall, rule.AsksFor firstDay horizon wall →
    ∃ instant, DateTime.instant ⟨wall, some zone, false⟩ = .ok instant

theorem asksFor_last {day : Date} {wall : Wall} (notBefore : firstDay.number ≤ day.number)
    (ends : day.number + inner ≤ firstDay.number + horizon) :
    rule.AsksFor day inner wall ↔ rule.AsksFor firstDay horizon wall ∧
      day.number ≤ wall.date.number ∧ wall.date.number < day.number + inner := by
  constructor
  · intro asked
    have after := asked.notBefore
    have within := asked.within
    exact ⟨{ asked with notBefore := by omega, within := by omega }, after, within⟩
  · rintro ⟨asked, after, within⟩
    exact { asked with notBefore := after, within := within }

theorem Inside.last {day : Date} (inside : rule.Inside zone firstDay horizon)
    (notBefore : firstDay.number ≤ day.number)
    (ends : day.number + inner ≤ firstDay.number + horizon) : rule.Inside zone day inner where
  days := Nat.le_trans ends inside.days
  converted wall asked := inside.converted wall ((asksFor_last notBefore ends).mp asked).1

/-- A search on days that lie in the calendar finds the runs there, and looks no further once it has
as many as it is to find. -/
theorem IsFormed.runs_eq {time : DateTime} (formed : rule.IsFormed) (known : zone.IsKnown)
    (placed : time.zone = some zone) (started : time.instant = .ok start)
    (inside : rule.Inside zone time.wall.date horizon) :
    ∃ found, rule.RunsExactly zone start time.wall.date horizon found ∧
      ∀ limit more, limit ≤ found.length ∨ more = 0 →
        rule.runs time (horizon + more) limit = ⟨found.take limit, none⟩ := by
  obtain ⟨search, enumerates, -, exactly, begun⟩ :=
    formed.searched known placed started inside.days inside.converted
  refine ⟨search.foundWithin horizon, exactly, fun limit more enough => ?_⟩
  rcases begun with begun | ⟨timeless, begun⟩
  · have safe : ∀ further < horizon, ∃ date,
        search.firstDay.plusDays (0 + further) = .ok date ∧ search.SafeOn date :=
      fun further below => (Nat.zero_add further).symm ▸ enumerates.safe further below
    rw [runs, begun]
    obtain enough | rfl := enough
    · exact (Search.runsFrom_of_enough safe enough).trans (Search.runsFrom_eq safe)
    · exact Search.runsFrom_eq safe
  · rw [runs, begun, search.foundWithin_eq_nil timeless, List.take_nil]
    rfl

def Precedes (earlier later : DateTime) : Prop :=
  ∃ instant further, earlier.instant = .ok instant ∧ later.instant = .ok further ∧
    instant < further

theorem Precedes.asymm {earlier later : DateTime} (ordered : Precedes earlier later) :
    ¬ Precedes later earlier := by
  obtain ⟨instant, further, taken, takenLater, less⟩ := ordered
  rintro ⟨again, other, retaken, retakenLater, more⟩
  rw [taken] at retakenLater
  rw [takenLater] at retaken
  cases retaken
  cases retakenLater
  exact Int.lt_asymm less more

/-- Lists of times in order are equal if they have the same members. -/
theorem eq_of_increasing {one other : List DateTime} (ordered : one.Pairwise Precedes)
    (orderedToo : other.Pairwise Precedes) (same : ∀ time, time ∈ one ↔ time ∈ other) :
    one = other := by
  induction one generalizing other with
  | nil =>
    cases other with
    | nil => rfl
    | cons time rest => exact absurd ((same time).mpr List.mem_cons_self) List.not_mem_nil
  | cons first rest ih =>
    cases other with
    | nil => exact absurd ((same first).mp List.mem_cons_self) List.not_mem_nil
    | cons time others =>
      obtain ⟨before, tail⟩ := List.pairwise_cons.mp ordered
      obtain ⟨beforeToo, tailToo⟩ := List.pairwise_cons.mp orderedToo
      -- Each of the two first times is a member of the other list, and neither precedes the other.
      obtain rfl : first = time := by
        rcases List.mem_cons.mp ((same first).mp List.mem_cons_self) with equal | later
        · exact equal
        · rcases List.mem_cons.mp ((same time).mpr List.mem_cons_self) with equal | laterToo
          · exact equal.symm
          · exact absurd (beforeToo first later) (Precedes.asymm (before time laterToo))
      have once : ∀ {times : List DateTime}, (∀ time ∈ times, Precedes first time) →
          first ∉ times :=
        fun before member => absurd (before first member) (Precedes.asymm (before first member))
      refine congrArg (first :: ·)
        (ih tail tailToo fun time => ⟨fun member => ?_, fun member => ?_⟩)
      · refine (List.mem_cons.mp ((same time).mp (List.mem_cons_of_mem _ member))).resolve_left ?_
        rintro rfl
        exact once before member
      · refine (List.mem_cons.mp ((same time).mpr (List.mem_cons_of_mem _ member))).resolve_left ?_
        rintro rfl
        exact once beforeToo member

namespace RunsExactly

variable {earlier rest found : List DateTime} {time : DateTime}

theorem run_spec (exact : rule.RunsExactly zone start firstDay horizon found) (member : time ∈ found) :
    ∃ universal : Wall, time = ⟨time.wall, some zone, false⟩ ∧
      rule.AsksFor firstDay horizon time.wall ∧ time.instant = .ok (universal.micros : Int) ∧
      zone.FirstShows universal time.wall ∧ start < (universal.micros : Int) := by
  obtain ⟨universal, taken, first⟩ := exact.instants time member
  obtain ⟨wall, other, rfl, asked, again, later⟩ := (exact.complete time).mp member
  rw [← first.unique again] at later
  exact ⟨universal, rfl, asked, taken, first, later⟩

/-- The runs after a run, on the days that are left, are those that come after it in the list. -/
theorem found_eq_rest (known : zone.IsKnown)
    (exact : rule.RunsExactly zone start firstDay horizon (earlier ++ time :: rest))
    {instant : Instant} (taken : time.instant = .ok instant)
    (ends : time.wall.date.number + inner = firstDay.number + horizon)
    (others : rule.RunsExactly zone instant time.wall.date inner found) : found = rest := by
  have member : time ∈ earlier ++ time :: rest :=
    List.mem_append_right earlier List.mem_cons_self
  obtain ⟨universal, fixed, asked, ownTaken, first, later⟩ := exact.run_spec member
  rw [taken] at ownTaken
  cases ownTaken
  obtain ⟨-, ordered, before⟩ := List.pairwise_append.mp exact.increasing
  obtain ⟨after, increasing⟩ := List.pairwise_cons.mp ordered
  apply eq_of_increasing others.increasing increasing
  intro run
  constructor
  · intro runFound
    obtain ⟨further, placed, runAsked, runTaken, runFirst, runLater⟩ := others.run_spec runFound
    have within := ((asksFor_last asked.notBefore (Nat.le_of_eq ends)).mp runAsked).1
    have listed := (exact.complete run).mpr
      ⟨run.wall, further, placed, within, runFirst, Int.lt_trans later runLater⟩
    have follows : Precedes time run := ⟨_, _, taken, runTaken, runLater⟩
    rcases List.mem_append.mp listed with sooner | listed
    · exact absurd follows (Precedes.asymm (before run sooner time List.mem_cons_self))
    · rcases List.mem_cons.mp listed with rfl | listed
      · exact absurd follows (Precedes.asymm follows)
      · exact listed
  · intro runListed
    obtain ⟨own, further, ownTaken, runTaken, less⟩ := after run runListed
    rw [taken] at ownTaken
    cases ownTaken
    obtain ⟨other, placed, runAsked, otherTaken, runFirst, -⟩ := exact.run_spec
      (List.mem_append_right earlier (List.mem_cons_of_mem time runListed))
    rw [otherTaken] at runTaken
    cases runTaken
    -- A run on a day before that of `time` would be an earlier instant.
    have notBefore : time.wall.date.number ≤ run.wall.date.number := by
      apply Nat.not_lt.mp
      intro sooner
      rw [placed] at otherTaken
      rw [fixed] at taken
      have reversed := known.micros_lt otherTaken runFirst.shown taken
        (Wall.micros_lt_of_date_lt sooner)
      exact Int.lt_asymm less (Int.ofNat_lt.mpr reversed)
    have within := (asksFor_last asked.notBefore (Nat.le_of_eq ends)).mpr
      ⟨runAsked, notBefore, ends ▸ runAsked.within⟩
    exact (others.complete run).mpr ⟨run.wall, other, placed, within, runFirst, less⟩

end RunsExactly

section Walk

variable {clock : Instant} {now : Option DateTime} {tz : Option Zone} {time run : DateTime}
  {machine : MachineZone}

theorem zone_of_resolve (resolved : resolve clock now tz machine = .ok time)
    (placed : time.zone = some zone) : tz = none ∨ tz = some zone := by
  cases tz with
  | none => exact .inl rfl
  | some other =>
    right
    rw [← placed, eq_comm]
    cases now with
    | none => exact DateTime.zone_of_ofInstant resolved
    | some given =>
      rcases given with ⟨wall, none | own, fold⟩
      · cases resolved
        rfl
      · exact DateTime.zone_of_inZone resolved

/-- A run stays as it is where it is taken as the time to go on from. -/
theorem resolve_run {universal : Wall} (wanted : tz = none ∨ tz = some zone)
    (placed : run = ⟨run.wall, some zone, false⟩)
    (taken : run.instant = .ok (universal.micros : Int)) (shown : zone.Shows universal run.wall) :
    resolve clock (some run) tz machine = .ok run := by
  rw [placed] at taken ⊢
  rcases wanted with rfl | rfl
  · rfl
  · show DateTime.inZone _ zone = _
    cases zone with
    | named own => exact if_pos rfl
    | fixed offset =>
      -- The reading is converted by way of its instant, and no fixed offset shows a reading twice.
      obtain ⟨fold, converted⟩ := shown
      have first : fold = false := by
        obtain ⟨wall, -, same⟩ := DateTime.ofInstant_eq_ok.mp converted
        cases same
        exact decide_eq_false (fun differs => differs rfl)
      simp only [DateTime.inZone, taken, Except.bind, converted, first]

theorem IsFormed.walk_rest (formed : rule.IsFormed) (known : zone.IsKnown)
    (wanted : tz = none ∨ tz = some zone) (inside : rule.Inside zone firstDay defaultHorizon)
    {earlier rest : List DateTime}
    (exact : rule.RunsExactly zone start firstDay defaultHorizon (earlier ++ run :: rest))
    {count : Nat} (few : count ≤ rest.length) :
    rule.walk clock (some run) count tz machine = .ok ((rest.take count).map some) := by
  -- Each step takes one run from the rest of the list to those that were met earlier.
  induction count generalizing earlier run rest with
  | zero => rfl
  | succ count ih =>
    cases rest with
    | nil => exact absurd few (Nat.not_succ_le_zero count)
    | cons next rest =>
      obtain ⟨universal, placed, asked, taken, first, -⟩ := exact.run_spec
        (List.mem_append_right earlier List.mem_cons_self)
      have zoned : run.zone = some zone := by rw [placed]
      -- The days that are left of the first horizon.
      obtain ⟨inner, ends⟩ := Nat.exists_eq_add_of_le (Nat.le_of_lt asked.within)
      obtain ⟨found, others, stops⟩ := formed.runs_eq known zoned taken
        (inside.last asked.notBefore (Nat.le_of_eq ends.symm))
      obtain rfl := exact.found_eq_rest known taken ends.symm others
      obtain ⟨more, whole⟩ := Nat.exists_eq_add_of_le
        (show inner ≤ defaultHorizon by have := asked.notBefore; omega)
      have step : rule.next clock (some run) tz machine = .ok (some next) := by
        simp only [Rule.next, resolve_run wanted placed taken first.shown, bind, Except.bind,
          nextRun, whole]
        rw [stops 1 more (.inl (Nat.succ_pos _))]
        rfl
      rw [← List.singleton_append, ← List.append_assoc] at exact
      have onward := ih exact (Nat.le_of_succ_le_succ few)
      simp only [walk, step, onward, bind, Except.bind, pure, Except.pure, List.take_succ_cons,
        List.map_cons]

theorem IsFormed.next_eq (formed : rule.IsFormed) (known : zone.IsKnown)
    (resolved : resolve clock now tz machine = .ok time) (placed : time.zone = some zone)
    (started : time.instant = .ok start)
    (inside : rule.Inside zone time.wall.date defaultHorizon) :
    ∃ found, rule.RunsExactly zone start time.wall.date defaultHorizon found ∧
      (∀ limit, rule.runs time defaultHorizon limit = ⟨found.take limit, none⟩) ∧
      rule.next clock now tz machine = .ok found.head? := by
  obtain ⟨found, exact, whole⟩ := formed.runs_eq known placed started inside
  have listed : ∀ limit, rule.runs time defaultHorizon limit = ⟨found.take limit, none⟩ :=
    fun limit => whole limit 0 (.inr rfl)
  refine ⟨found, exact, listed, ?_⟩
  simp only [Rule.next, resolved, bind, Except.bind, nextRun, listed]
  cases found <;> rfl

/-- Going on from run to run does not fail as long as it stays in the calendar. -/
theorem IsFormed.walk_ok (formed : rule.IsFormed) (known : zone.IsKnown)
    (resolved : resolve clock now tz machine = .ok time) (placed : time.zone = some zone)
    (started : time.instant = .ok start) {count : Nat}
    (inside : rule.Inside zone time.wall.date (count * defaultHorizon)) :
    ∃ followed, rule.walk clock now count tz machine = .ok followed := by
  -- A step goes on by one horizon at most, so one horizon less has to lie in the calendar after it.
  induction count generalizing now time start with
  | zero => exact ⟨[], rfl⟩
  | succ count ih =>
    rw [Nat.succ_mul] at inside
    obtain ⟨found, exact, -, first⟩ := formed.next_eq known resolved placed started
      (inside.last (Nat.le_refl _) (by omega))
    cases found with
    | nil =>
      refine ⟨[none], ?_⟩
      simp only [walk, first, bind, Except.bind, List.head?_nil, pure, Except.pure]
    | cons run rest =>
      obtain ⟨universal, fixed, asked, taken, shown, -⟩ := exact.run_spec List.mem_cons_self
      have within := asked.within
      obtain ⟨followed, onward⟩ := ih
        (resolve_run (zone_of_resolve resolved placed) fixed taken shown.shown)
        (by rw [fixed]) taken (inside.last asked.notBefore (by omega))
      refine ⟨some run :: followed, ?_⟩
      simp only [walk, first, onward, bind, Except.bind, List.head?_cons, pure, Except.pure]

theorem walk_prefix {fewer more : Nat} {first whole : List (Option DateTime)}
    (ordered : fewer ≤ more) (followed : rule.walk clock now fewer tz machine = .ok first)
    (onward : rule.walk clock now more tz machine = .ok whole) : first <+: whole := by
  -- The first step is the same for both, and it is the last one where there is no next run.
  induction fewer generalizing now more first whole with
  | zero =>
    cases followed
    exact List.nil_prefix
  | succ fewer ih =>
    obtain ⟨more, rfl⟩ := Nat.exists_eq_add_of_le' ordered
    rw [walk] at followed
    rw [← Nat.add_assoc, walk] at onward
    cases result : rule.next clock now tz machine with
    | error fault =>
      rw [result] at followed
      cases followed
    | ok found =>
      rw [result] at followed onward
      cases found with
      | none =>
        cases followed
        cases onward
        exact List.prefix_refl _
      | some run =>
        simp only [bind, Except.bind, pure, Except.pure] at followed onward
        cases rest : rule.walk clock (some run) fewer tz machine with
        | error fault =>
          rw [rest] at followed
          cases followed
        | ok others =>
          cases further : rule.walk clock (some run) (more + fewer) tz machine with
          | error fault =>
            rw [further] at onward
            cases onward
          | ok all =>
            rw [rest] at followed
            rw [further] at onward
            cases followed
            cases onward
            exact (List.prefix_cons_inj (some run)).mpr
              (ih (Nat.le_add_left fewer more) rest further)

theorem simulate_eq {found : List DateTime} {count : Int} {horizon : Nat}
    (resolved : resolve clock now tz machine = .ok time)
    (listed : ∀ limit, rule.runs time horizon limit = ⟨found.take limit, none⟩)
    (countable : count ≤ greatestCount) :
    rule.simulate clock count now tz horizon machine = .ok (found.take count.toNat) := by
  rw [simulate]
  split
  next few => rw [Int.toNat_of_nonpos few, List.take_zero]
  next =>
    rw [if_neg (Int.not_lt.mpr countable)]
    simp only [resolved, bind, Except.bind, Int.toNat_natCast, listed, Runs.complete]

theorem simulate_beyond_count {count horizon : Int} (beyond : greatestCount < count) :
    rule.simulate clock count now tz horizon machine = .error .countAbove := by
  have positive : ¬ count ≤ 0 := by
    simp only [greatestCount] at beyond
    omega
  rw [simulate, if_neg positive, if_pos beyond]

theorem IsFormed.walk_found (formed : rule.IsFormed) (known : zone.IsKnown)
    (wanted : tz = none ∨ tz = some zone) (inside : rule.Inside zone firstDay defaultHorizon)
    {found : List DateTime}
    (exact : rule.RunsExactly zone start firstDay defaultHorizon found)
    (first : rule.next clock now tz machine = .ok found.head?) {count : Nat}
    (few : count ≤ found.length) :
    rule.walk clock now count tz machine = .ok ((found.take count).map some) := by
  cases count with
  | zero => rfl
  | succ count =>
    cases found with
    | nil => exact absurd few (Nat.not_succ_le_zero count)
    | cons run rest =>
      have onward : rule.walk clock (some run) count tz machine = .ok ((rest.take count).map some) :=
        formed.walk_rest known wanted inside (List.nil_append (run :: rest) ▸ exact)
          (Nat.le_of_succ_le_succ few)
      simp only [walk, first, onward, bind, Except.bind, pure, Except.pure, List.head?_cons,
        List.take_succ_cons, List.map_cons]

/-- As many steps from run to run as `simulate` lists runs meet just these runs, and further steps
meet others after them; more runs than can be counted are not listed. -/
theorem walk_simulate (read : rule.IsRead) (known : zone.IsKnown)
    (resolved : resolve clock now tz machine = .ok time) (placed : time.zone = some zone)
    (started : time.instant = .ok start)
    (inside : rule.Inside zone time.wall.date defaultHorizon) (count : Nat) :
    ((count : Int) ≤ greatestCount →
      ∃ runs, rule.simulate clock count now tz defaultHorizon machine = .ok runs ∧
        rule.walk clock now runs.length tz machine = .ok (runs.map some) ∧
        (∀ followed, rule.walk clock now count tz machine = .ok followed →
          runs.map some <+: followed) ∧
        (rule.Inside zone time.wall.date (count * defaultHorizon) →
          ∃ followed, rule.walk clock now count tz machine = .ok followed)) ∧
      (greatestCount < (count : Int) →
        rule.simulate clock count now tz defaultHorizon machine = .error .countAbove) := by
  refine ⟨fun countable => ?_, simulate_beyond_count⟩
  have formed := read.isFormed
  obtain ⟨found, exact, listed, first⟩ := formed.next_eq known resolved placed started inside
  have fewest : (found.take count).length ≤ found.length := by
    rw [List.length_take]
    exact Nat.min_le_right _ _
  have same : found.take (found.take count).length = found.take count := by
    rw [List.length_take, ← List.take_eq_take_min]
  have met := formed.walk_found known (zone_of_resolve resolved placed) inside exact first fewest
  rw [same] at met
  refine ⟨found.take count, simulate_eq resolved listed countable, met, fun followed onward => ?_,
    fun further => formed.walk_ok known resolved placed started further⟩
  exact walk_prefix (List.length_take_le count found) met onward

theorem inside_saoPaulo {days : Nat} (few : days ≤ 100000) :
    midnight.Inside (.named Zone.saoPaulo) noonBeforeSkip.wall.date days where
  days := by
    have first : noonBeforeSkip.wall.date.number = 734425 := rfl
    simp only [first, lastDayNumber]
    omega
  converted wall asked := by
    apply Zone.instant_of_inner (by decide)
    have notBefore : 734425 ≤ wall.date.number := asked.notBefore
    have within : wall.date.number < 734425 + days := asked.within
    simp only [Wall.date, calendarMicros, lastDayNumber, dayMicros, secondMicros] at *
    omega

theorem walk_simulate_saoPaulo :
    ∃ runs, midnight.simulate 0 2 (some noonBeforeSkip) none defaultHorizon = .ok runs ∧
      midnight.walk 0 (some noonBeforeSkip) runs.length none = .ok (runs.map some) ∧
      ∃ followed, midnight.walk 0 (some noonBeforeSkip) 2 none = .ok followed ∧
        runs.map some <+: followed := by
  have resolved : resolve 0 (some noonBeforeSkip) none = .ok noonBeforeSkip := rfl
  have known : (Zone.named Zone.saoPaulo).IsKnown := by
    rintro own ⟨⟩
    decide
  obtain ⟨runs, simulated, met, further, onward⟩ :=
    (walk_simulate (.inl ⟨.null, "rule", rfl⟩) known resolved rfl rfl
      (inside_saoPaulo (by decide)) 2).1 (by decide)
  obtain ⟨followed, reached⟩ := onward (inside_saoPaulo (by decide))
  exact ⟨runs, simulated, met, followed, reached, further followed reached⟩

/-- More runs than can be counted are not listed, however few there are. -/
theorem not_simulate_beyond_count :
    ¬ ∃ runs, midnight.simulate 0 9223372036854775808 (some noonBeforeSkip) none defaultHorizon =
        .ok runs ∧
      midnight.walk 0 (some noonBeforeSkip) runs.length none = .ok (runs.map some) := by
  rintro ⟨runs, ⟨⟩, -⟩

end Walk

end Rule

end Timetable
