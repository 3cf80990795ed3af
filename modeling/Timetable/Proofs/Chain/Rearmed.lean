import Timetable.Proofs.Chain.Pending
import Timetable.Proofs.Runs.Least

/-! What a chain is armed for.

Without a script of the planner a chain is armed for the next run of the rule that its task has at that
moment, after the later one of the present and of the time that the chain has come to. At the end of a
run the chain is armed anew if the rule asks for another run ahead and the task still holds the trigger.
-/

set_option autoImplicit false

namespace Timetable

namespace State

variable {number trigger : Nat} {state later next : State} {agent : Agent} {args : List Value}
  {after : Option DateTime} {due : DateTime}

/-! ### Planning -/

def IsPlanned (state : State) (number : Nat) (after : Option DateTime) (due : DateTime) : Prop :=
  ∃ now time, state.now = .ok now ∧ planFrom now after = .ok time ∧
    (state.entry number).rule.nextRun time = .ok (some due)

theorem plan_ok (unscripted : state.setting.plans = none) {rule : Rule} {time : DateTime}
    {run : Option DateTime} (found : rule.nextRun time = .ok run) :
    state.plan rule time = (state, .ok run) := by
  unfold plan
  rw [unscripted, found]
  rfl

theorem plan_error (unscripted : state.setting.plans = none) {rule : Rule} {time : DateTime}
    {fault : Fault} (failed : rule.nextRun time = .error fault) :
    state.plan rule time = (state, .error fault.failure) := by
  unfold plan
  rw [unscripted, failed]
  rfl

theorem armFor_due (state : State) (number : Nat) (args : List Value) (due : DateTime) :
    ((state.armFor number args due).1.trigger state.triggers.size).due = some due := by
  obtain ⟨spawned, result, starts, started⟩ :=
    state.startThread_spawned number args due (state.entry number).name
  unfold armFor
  dsimp only
  rw [starts]
  rcases started with ⟨rfl, made⟩ | ⟨failure, rfl, -, made⟩ <;> exact made.due_new

/-- Unless starts of threads fail, a task that is armed holds the new trigger. -/
theorem armFor_held (spared : state.failingStarts = 0) (within : number < state.entries.size)
    (args : List Value) (due : DateTime) :
    ((state.armFor number args due).1.entry number).trigger = some state.triggers.size := by
  obtain ⟨spawned, result, starts, started⟩ :=
    state.startThread_spawned number args due (state.entry number).name
  unfold armFor
  dsimp only
  rw [starts]
  rcases started with ⟨rfl, made⟩ | ⟨failure, rfl, failing, -⟩
  · have size : number < spawned.entries.size := made.entries ▸ within
    have held : ((spawned.updateEntry number fun entry =>
        entry.arm state.triggers.size due).entry number).trigger = some state.triggers.size := by
      rw [entry_updateEntry_self size]
      rfl
    exact held
  · exact absurd spared failing

/-- A trigger that arming has made is due at the run that was planned. -/
theorem isPlanned_of_arm (unscripted : state.setting.plans = none)
    (made : state.triggers.size < (state.arm number args after).1.triggers.size)
    (found : ((state.arm number args after).1.trigger state.triggers.size).due = some due) :
    state.IsPlanned number after due := by
  unfold arm at made found
  cases seen : state.now with
  | error fault =>
    rw [seen] at made
    exact absurd made (Nat.lt_irrefl _)
  | ok now =>
    simp only [seen] at made found
    cases reached : planFrom now after with
    | error fault =>
      simp only [reached, Fault.failure_leaves] at made
      exact absurd made (Nat.lt_irrefl _)
    | ok time =>
      cases sought : (state.entry number).rule.nextRun time with
      | error fault =>
        simp only [reached, plan_error unscripted sought, Fault.failure_leaves] at made
        exact absurd made (Nat.lt_irrefl _)
      | ok run =>
        simp only [reached, plan_ok unscripted sought] at made found
        cases run with
        | none => exact absurd made (Nat.lt_irrefl _)
        | some run =>
          simp only [armFor_due] at found
          cases found
          exact ⟨now, time, seen, reached, sought⟩

theorem arm_held (unscripted : state.setting.plans = none) (spared : state.failingStarts = 0)
    (within : number < state.entries.size) {now time : DateTime} (seen : state.now = .ok now)
    (reached : planFrom now after = .ok time)
    (found : (state.entry number).rule.nextRun time = .ok (some due)) (args : List Value) :
    ((state.arm number args after).1.entry number).trigger = some state.triggers.size := by
  unfold arm
  simp only [seen, reached, plan_ok unscripted found]
  exact armFor_held spared within args due

theorem planFrom_some {now time reached : DateTime} {instant : Instant}
    (taken : reached.instant = .ok instant) (planned : planFrom now (some reached) = .ok time) :
    ∃ present, now.instant = .ok present ∧ time = if present < instant then reached else now := by
  simp only [planFrom, taken, bind, Except.bind] at planned
  cases shown : now.instant with
  | error fault => rw [shown] at planned; cases planned
  | ok present =>
    rw [shown] at planned
    exact ⟨present, rfl, (Except.ok.inj planned).symm⟩

/-- The run that is planned is the least one that is later than the present and than the time that the
chain has come to. -/
theorem IsPlanned.isLeastRun (known : state.setting.zone.IsKnown)
    (planned : state.IsPlanned number after due)
    (dated : ∀ reached, after = some reached →
      ∃ universal, reached.IsAt state.setting.zone universal) :
    ∃ start : Instant, state.clock ≤ start ∧
      (∀ reached instant, after = some reached → reached.instant = .ok instant →
        start = max state.clock instant) ∧
      (state.entry number).rule.IsLeastRun state.setting.zone start due := by
  obtain ⟨now, time, shown, planned, found⟩ := planned
  have least : ∀ {universal : Wall}, time.IsAt state.setting.zone universal →
      (state.entry number).rule.IsLeastRun state.setting.zone universal.micros due :=
    fun shows => Rule.isLeastRun_of_nextRun known shows found
  cases after with
  | none =>
    cases planned
    obtain ⟨start, taken⟩ := Rule.instant_of_nextRun found
    obtain ⟨present, clock, shows⟩ := DateTime.isAt_ofInstant known shown taken
    exact ⟨present.micros, Int.le_of_eq clock, (by rintro _ _ ⟨⟩), least shows⟩
  | some reached =>
    obtain ⟨universal, shows⟩ := dated reached rfl
    obtain ⟨start, taken, same⟩ := planFrom_some shows.taken planned
    obtain ⟨present, clock, current⟩ := DateTime.isAt_ofInstant known shown taken
    obtain rfl := Except.ok.inj (current.taken.symm.trans taken)
    have latest : ∀ start : Instant, start = max state.clock universal.micros →
        ∀ other instant, some reached = some other → other.instant = .ok instant →
          start = max state.clock instant := by
      rintro start rfl _ instant ⟨⟩ taken
      rw [Except.ok.inj (shows.taken.symm.trans taken)]
    by_cases late : (present.micros : Int) < universal.micros
    · rw [if_pos late] at same
      have ahead : state.clock ≤ universal.micros := clock ▸ Int.le_of_lt late
      exact ⟨_, ahead, latest _ (Int.max_eq_right ahead).symm, least (same ▸ shows)⟩
    · rw [if_neg late] at same
      have behind : (universal.micros : Int) ≤ state.clock := clock ▸ Int.not_lt.mp late
      exact ⟨_, Int.le_of_eq clock, latest _ (by rw [Int.max_eq_left behind, clock]),
        least (same ▸ current)⟩

theorem IsPlanned.ahead (known : state.setting.zone.IsKnown)
    (planned : state.IsPlanned number after due)
    (dated : ∀ reached, after = some reached →
      ∃ universal, reached.IsAt state.setting.zone universal) :
    ∃ universal : Wall, due.IsAt state.setting.zone universal ∧
      state.clock < (universal.micros : Int) := by
  obtain ⟨start, present, -, least⟩ := planned.isLeastRun known dated
  obtain ⟨universal, shows, later⟩ := least.run.isAt
  exact ⟨universal, shows, Int.lt_of_le_of_lt present later⟩

/-! ### The end of a run -/

/-- Once the failure of a run is noted, the chain is armed anew if it goes on, and is over otherwise. -/
theorem endRun_cases (state : State) (number trigger : Nat) (args : List Value) (mode : Mode)
    (work : Work) (outcome : Signal) :
    ∃ noted, Noted number state noted ∧
      ((state.endRun number trigger args mode work outcome).1 =
          (noted.arm number (nextArgs mode args outcome) (state.trigger trigger).due).1 ∧
        (state.entry number).isRunning = true ∧ (state.entry number).trigger = some trigger ∨
      (state.endRun number trigger args mode work outcome).1 = (noted.endChain number trigger).1 ∧
        ¬ ((state.entry number).isRunning = true ∧ (state.entry number).trigger = some trigger)) := by
  obtain ⟨failed, noted, counted, same⟩ := state.endRun_eq number trigger args mode work outcome
  refine ⟨noted, counted, ?_⟩
  rw [same, goOn, counted.neutral.isRunning, counted.neutral.held]
  split
  · next goes =>
    refine .inl ⟨?_, goes⟩
    generalize noted.arm number (nextArgs mode args outcome) (state.trigger trigger).due = result
    obtain ⟨later, failure | report⟩ := result <;> rfl
  · next finished => exact .inr ⟨rfl, finished⟩

/-- The next step ends a run of a task, which a trigger has called. -/
def EndsRun (state : State) (number trigger : Nat) : Prop :=
  ∃ agent args mode work rest signal,
    state.active = some ⟨agent, .fired number trigger args mode work :: rest, signal⟩

structure Rearms (state next : State) (number trigger armed : Nat) : Prop where
  ends : state.EndsRun number trigger
  other : (state.entry number).trigger ≠ some armed
  held : (next.entry number).trigger = some armed

/-- The trigger that a task holds once it was armed is the one that it held before, or a new one whose
time is the run ahead. -/
theorem Arming.held {result : Except Failure (Option Report)}
    (arming : Arming state number args later result)
    (held : (later.entry number).trigger = some trigger) :
    (state.entry number).trigger = some trigger ∨ ∃ due, trigger = state.triggers.size ∧
      state.triggers.size < later.triggers.size ∧ (later.entry number).nextRun = some due ∧
        (later.trigger trigger).due = some due := by
  cases arming with
  | blind fault blind => exact .inl held
  | left unmoved leaves => exact .inl (unmoved.entry number ▸ held)
  | unplanned report unmoved =>
    rw [(chain_breakOff _ _ _).2.1] at held
    cases held
  | unstarted report unmoved made =>
    rw [(chain_breakOff _ _ _).2.1] at held
    cases held
  | @armed planned spawned _ due unmoved made armed =>
    have size : planned.triggers.size = state.triggers.size := by rw [unmoved.triggers]
    rw [armed.entry, entry_updateEntry] at held ⊢
    split at held
    · next within =>
      obtain rfl := Option.some.inj held
      refine .inr ⟨due, rfl, ?_, by rw [if_pos within]; rfl, ?_⟩
      · rw [armed.triggers]
        show state.triggers.size < spawned.triggers.size
        rw [made.size, size]
        exact Nat.lt_succ_self _
      · rw [armed.trigger]
        exact size ▸ made.due_new
    · exact .inl (by rw [made.entry, unmoved.entry] at held; exact held)

theorem Noted.unmoved (noted : Noted number state later) : later.now = state.now ∧
    later.failingStarts = state.failingStarts ∧ later.triggers.size = state.triggers.size := by
  rcases noted with rfl | ⟨report, rfl⟩ <;> exact ⟨rfl, rfl, rfl⟩

/-- A task that is armed anew has the least run ahead that its rule asks for after the present and after
the instant that was fired. -/
theorem Sound.rearms (sound : Sound state) {armed : Nat}
    (unscripted : state.setting.plans = none) (known : state.setting.zone.IsKnown)
    {fired : DateTime} {universal : Wall} (due : (state.trigger trigger).due = some fired)
    (shows : fired.IsAt state.setting.zone universal) (stepped : state.step = some next)
    (rearms : Rearms state next number trigger armed) :
    ∃ run, (next.entry number).nextRun = some run ∧ (next.trigger armed).due = some run ∧
      (state.entry number).rule.IsLeastRun state.setting.zone
        (max state.clock universal.micros) run := by
  obtain ⟨⟨agent, args, mode, work, rest, signal, active⟩, other, held⟩ := rearms
  obtain ⟨later, move, replied⟩ : ∃ later move, Replied state later next agent
      (.fired number trigger args mode work) rest signal move :=
    ⟨_, _, sound.replied_step active stepped⟩
  have dues : (next.trigger armed).due = (later.trigger armed).due := by
    rw [replied.turns.toShift.trigger]
  rw [replied.turns.toShift.entry number] at held ⊢
  rw [dues]
  rcases replied.reply.of_fired with ⟨failure, -, -, rfl, -⟩ | ended
  · exact absurd held other
  have same : later = (state.endRun number trigger args mode work signal).1 :=
    congrArg Prod.fst ended
  obtain ⟨noted, counted, ⟨armedAnew, -, -⟩ | ⟨finished, -⟩⟩ :=
    state.endRun_cases number trigger args mode work signal
  · rw [same, armedAnew] at held ⊢
    have inside := counted.local
    have unchanged := counted.neutral.held number
    rcases (arm_arming noted number _ _).held held with
      before | ⟨run, rfl, made, nextRun, dated⟩
    · exact absurd (unchanged.symm.trans before) other
    · refine ⟨run, nextRun, dated, ?_⟩
      have planned := isPlanned_of_arm (by rw [inside.setting]; exact unscripted) made dated
      rw [due] at planned
      obtain ⟨start, -, latest, least⟩ :=
        planned.isLeastRun (by rw [inside.setting]; exact known) (by
          rintro _ ⟨⟩
          rw [inside.setting]
          exact ⟨universal, shows⟩)
      have rule := inside.rule
      rw [latest fired universal.micros rfl shows.taken, rule, inside.setting, inside.clock]
        at least
      exact least
  · rw [same, finished] at held
    refine absurd ?_ other
    have released : (noted.entry number).trigger = some armed := by
      rw [endChain] at held
      dsimp only at held
      rw [entry_updateEntry] at held
      split at held
      · exact (held_release held).1
      · exact held
    exact (counted.neutral.held number).symm.trans released

/-- A run of a task ends, or fails, and its chain can go on: the trigger still is the task's, the rule
asks for another run within the lookahead, away from the end of the calendar, and threads can be
started. -/
structure CanGoOn (state : State) (number trigger : Nat) : Prop where
  ends : ∃ agent args mode work rest signal,
    state.active = some ⟨agent, .fired number trigger args mode work :: rest, signal⟩ ∧
      ∀ failure, signal = .error failure → failure.leaves = false
  running : (state.entry number).isRunning = true
  held : (state.entry number).trigger = some trigger
  threads : state.failingStarts = 0
  formed : (state.entry number).rule.IsFormed
  ahead : ∃ now universal run, state.now = .ok now ∧ now.IsAt state.setting.zone universal ∧
    (state.entry number).rule.Inside state.setting.zone now.wall.date defaultHorizon ∧
    (state.entry number).rule.IsRun state.setting.zone universal.micros run ∧
    run.wall.date.number < now.wall.date.number + defaultHorizon

theorem CanGoOn.endsRun (goes : CanGoOn state number trigger) : EndsRun state number trigger := by
  obtain ⟨agent, args, mode, work, rest, signal, active, -⟩ := goes.ends
  exact ⟨agent, args, mode, work, rest, signal, active⟩

theorem Sound.resumes (sound : Sound state) (unscripted : state.setting.plans = none)
    (known : state.setting.zone.IsKnown) {fired : DateTime} {universal : Wall}
    (due : (state.trigger trigger).due = some fired)
    (shows : fired.IsAt state.setting.zone universal)
    (came : (universal.micros : Int) ≤ state.clock) (stepped : state.step = some next)
    (goes : CanGoOn state number trigger) : ∃ armed, Rearms state next number trigger armed := by
  obtain ⟨agent, args, mode, work, rest, signal, active, mild⟩ := goes.ends
  obtain ⟨now, present, run, seen, current, inside, further, within⟩ := goes.ahead
  have owned := ((sound.linked.tasks number).held trigger goes.held).1
  have older : trigger < state.triggers.size := Local.within_of_owner owned
  obtain ⟨later, move, replied⟩ : ∃ later move, Replied state later next agent
      (.fired number trigger args mode work) rest signal move :=
    ⟨_, _, sound.replied_step active stepped⟩
  refine ⟨state.triggers.size, goes.endsRun, ?_, ?_⟩
  · rw [goes.held]
    exact fun same => Nat.ne_of_lt older (Option.some.inj same)
  rw [replied.turns.toShift.entry number]
  rcases replied.reply.of_fired with ⟨failure, failed, leaves, -⟩ | ended
  · rw [mild failure failed] at leaves
    cases leaves
  have same : later = (state.endRun number trigger args mode work signal).1 :=
    congrArg Prod.fst ended
  obtain ⟨upcoming, found⟩ := goes.formed.nextRun_of_isRun known current inside further within
  -- The instant that was fired is past, so the next run is sought from the present.
  have planned : planFrom now (state.trigger trigger).due = .ok now := by
    obtain ⟨clock, same, again⟩ := DateTime.isAt_ofInstant known seen current.taken
    have past : ¬ (present.micros : Int) < universal.micros := by
      rw [Except.ok.inj (current.taken.symm.trans again.taken), ← same]
      exact Int.not_lt.mpr came
    rw [due]
    simp only [planFrom, shows.taken, current.taken, bind, Except.bind, pure, Except.pure,
      if_neg past]
  obtain ⟨noted, counted, ⟨armedAnew, -, -⟩ | ⟨-, finished⟩⟩ :=
    state.endRun_cases number trigger args mode work signal
  · have inside := counted.local
    obtain ⟨clock, threads, triggers⟩ := counted.unmoved
    rw [same, armedAnew, ← triggers]
    exact arm_held (inside.setting ▸ unscripted) (threads.trans goes.threads)
      (inside.size ▸ sound.linked.range trigger number owned) (clock.trans seen) planned
      (inside.rule ▸ found) _
  · exact absurd ⟨goes.running, goes.held⟩ finished

end State

end Timetable
