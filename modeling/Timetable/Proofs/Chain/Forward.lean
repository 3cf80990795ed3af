import Timetable.Proofs.Chain.Consistent
import Timetable.Proofs.Chain.Firing
import Timetable.Proofs.Chain.Rearmed

/-! Firings move forward in time.

The triggers of a task are armed one after the other, each for a run that is later than the present, once
those before it are decided. A trigger proceeds when its time has come, so whatever a later one is armed
for is later than that.
-/

set_option autoImplicit false

namespace Timetable

namespace State

variable {number trigger : Nat} {state middle later next : State} {agent : Agent}

/-! ### The clock -/

theorem clock_make (state : State) (agent : Agent) (rest : List Frame) (move : Move) :
    (state.make agent rest move).clock = state.clock := by
  cases move with
  | resume => rfl
  | wait => cases agent <;> rfl

theorem clock_finish (state : State) (agent : Agent) (signal : Signal) :
    (state.finish agent signal).clock = state.clock := by
  cases agent <;> rfl

theorem clock_activate (state : State) (trigger : Nat) :
    (state.activate trigger).clock = state.clock := by
  unfold activate
  split <;> rfl

theorem Passed.clock (passed : Passed state next) : state.clock ≤ next.clock := by
  cases passed with
  | goesOn => exact Int.le_refl _
  | wakes | expires => exact Int.le_max_left _ _

theorem Sound.clock_le (sound : Sound state) (stepped : state.step = some next) :
    state.clock ≤ next.clock := by
  cases step_stepped stepped with
  | answers agent frame rest signal active same =>
    -- Time passes while nobody runs; an answer does not take any.
    have grows := (sound.replied active).reply.grows sound.linked
    exact Int.le_of_eq (by rw [same, clock_make, grows.clock])
  | finishes agent signal _ same => exact Int.le_of_eq (by rw [same, clock_finish])
  | activates trigger others _ _ same => exact Int.le_of_eq (by rw [same, clock_activate])
  | passes _ _ passed => exact passed.clock

/-! ### The order of the triggers of a task -/

/-- The instant at which a trigger is due, as clocks of the machine show it. -/
def IsDueAt (state : State) (trigger : Nat) (universal : Wall) : Prop :=
  ∃ time, (state.trigger trigger).due = some time ∧ time.IsAt state.setting.zone universal

theorem IsDueAt.congr {universal : Wall} (due : state.IsDueAt trigger universal)
    (setting : later.setting = state.setting)
    (same : (later.trigger trigger).due = (state.trigger trigger).due) :
    later.IsDueAt trigger universal := by
  obtain ⟨time, found, shows⟩ := due
  exact ⟨time, same.trans found, setting ▸ shows⟩

theorem IsDueAt.unique {one other : Wall} (due : state.IsDueAt trigger one)
    (again : state.IsDueAt trigger other) : (one.micros : Int) = other.micros := by
  obtain ⟨time, found, shows⟩ := due
  obtain ⟨_, foundToo, showsToo⟩ := again
  cases found.symm.trans foundToo
  exact Except.ok.inj (shows.taken.symm.trans showsToo.taken)

/-- The triggers of tasks are armed for later and later instants. -/
structure Ordered (state : State) : Prop where
  dated : ∀ trigger number, state.owner trigger = some number →
    ∃ universal, state.IsDueAt trigger universal
  /-- A trigger that has proceeded was due. -/
  came : ∀ trigger number universal, state.owner trigger = some number →
    state.outcome trigger = some .proceed → state.IsDueAt trigger universal →
      (universal.micros : Int) ≤ state.clock
  /-- A trigger was decided before the next one was armed, which is due later if that one proceeds. -/
  later : ∀ number one other, state.owner one = some number → state.owner other = some number →
    state.isStarted one = true → state.isStarted other = true → one < other →
      state.outcome one ≠ none ∧ ∀ sooner later, state.outcome one = some .proceed →
        state.IsDueAt one sooner → state.IsDueAt other later →
          (sooner.micros : Int) < later.micros

namespace Ordered

theorem due_of_proceed (ordered : Ordered state) (owned : state.owner trigger = some number)
    (proceeds : state.outcome trigger = some .proceed) :
    ∃ universal, state.IsDueAt trigger universal ∧ (universal.micros : Int) ≤ state.clock := by
  obtain ⟨universal, due⟩ := ordered.dated trigger number owned
  exact ⟨universal, due, ordered.came trigger number universal owned proceeds due⟩

theorem congr (ordered : Ordered state) (setting : later.setting = state.setting)
    (clock : state.clock ≤ later.clock)
    (owner : ∀ trigger number, later.owner trigger = some number →
      state.owner trigger = some number)
    (kept : ∀ trigger number, state.owner trigger = some number →
      (later.isStarted trigger = true → state.isStarted trigger = true) ∧
        later.outcome trigger = state.outcome trigger ∧
          (later.trigger trigger).due = (state.trigger trigger).due) :
    Ordered later := by
  have dues : ∀ {trigger number universal}, state.owner trigger = some number →
      (later.IsDueAt trigger universal ↔ state.IsDueAt trigger universal) := by
    intro trigger number universal owned
    have same := (kept trigger number owned).2.2
    exact ⟨fun due => due.congr setting.symm same.symm, fun due => due.congr setting same⟩
  refine ⟨fun trigger number owned => ?_, fun trigger number universal owned proceeds due => ?_,
    fun number one other ownedOne ownedOther startedOne startedOther less => ?_⟩
  · have before := owner trigger number owned
    obtain ⟨universal, due⟩ := ordered.dated trigger number before
    exact ⟨universal, (dues before).mpr due⟩
  · have before := owner trigger number owned
    rw [(kept trigger number before).2.1] at proceeds
    exact Int.le_trans (ordered.came trigger number universal before proceeds ((dues before).mp due))
      clock
  · have beforeOne := owner one number ownedOne
    have beforeOther := owner other number ownedOther
    obtain ⟨decided, sooner⟩ := ordered.later number one other beforeOne beforeOther
      ((kept one number beforeOne).1 startedOne) ((kept other number beforeOther).1 startedOther) less
    rw [(kept one number beforeOne).2.1]
    exact ⟨decided, fun first second proceeds dueOne dueOther => sooner first second proceeds
      ((dues beforeOne).mp dueOne) ((dues beforeOther).mp dueOther)⟩

theorem of_triggers (ordered : Ordered state) (setting : later.setting = state.setting)
    (clock : later.clock = state.clock)
    (same : ∀ trigger, later.trigger trigger = state.trigger trigger) : Ordered later := by
  refine ordered.congr setting (Int.le_of_eq clock.symm) (fun trigger number owned => ?_)
    fun trigger number _ => ⟨fun started => ?_, ?_, by rw [same]⟩
  · rw [owner, same] at owned; exact owned
  · rw [isStarted, same] at started; exact started
  · rw [outcome, same]; rfl

theorem neutral (ordered : Ordered state) (neutral : Neutral state later) : Ordered later := by
  refine ordered.congr neutral.setting (Int.le_of_eq neutral.clock.symm)
    (fun trigger number owned => (neutral.owner_eq trigger).symm.trans owned)
    fun trigger number owned => ?_
  have same := neutral.owned trigger number owned
  refine ⟨fun started => ?_, ?_, by rw [same]⟩
  · rw [isStarted, same] at started; exact started
  · rw [outcome, same]; rfl

theorem shift (ordered : Ordered state) (shift : Shift state later)
    (clock : state.clock ≤ later.clock) : Ordered later := by
  refine ordered.congr shift.setting clock
    (fun trigger number owned => (shift.owner trigger).symm.trans owned)
    fun trigger number _ => ⟨fun started => ?_, shift.outcome trigger, by rw [shift.trigger]⟩
  rw [shift.started] at started; exact started

theorem commit (ordered : Ordered state) (within : trigger < state.triggers.size)
    (decided : Outcome) (callback : Option Work)
    (due : decided = .proceed → ∀ universal, state.IsDueAt trigger universal →
      (universal.micros : Int) ≤ state.clock) :
    Ordered (state.commit trigger decided callback).1 := by
  have setting : (state.commit trigger decided callback).1.setting = state.setting ∧
      (state.commit trigger decided callback).1.clock = state.clock := by
    by_cases undecided : state.outcome trigger = none
    · rw [commit_undecided undecided]; exact ⟨rfl, rfl⟩
    · rw [commit_decided undecided]; exact ⟨rfl, rfl⟩
  have same : ∀ other, ((state.commit trigger decided callback).1.trigger other).due =
      (state.trigger other).due := fun other => by rw [commit_keeps]
  have dues : ∀ {other universal},
      (state.commit trigger decided callback).1.IsDueAt other universal →
        state.IsDueAt other universal :=
    fun due => due.congr setting.1.symm (same _).symm
  have outcomes := outcome_commit within decided callback
  refine ⟨fun other number owned => ?dated, fun other number universal owned proceeds dueAt => ?came,
    fun number one other ownedOne ownedOther startedOne startedOther less => ?later⟩
  case dated =>
    rw [owner_commit] at owned
    obtain ⟨universal, dueAt⟩ := ordered.dated other number owned
    exact ⟨universal, dueAt.congr setting.1 (same _)⟩
  case came =>
    rw [owner_commit] at owned
    rw [outcomes] at proceeds
    rw [setting.2]
    split at proceeds
    · next mine =>
      subst mine
      cases before : state.outcome other with
      | none =>
        rw [before] at proceeds
        exact due (Option.some.inj proceeds) universal (dues dueAt)
      | some taken =>
        rw [before] at proceeds
        exact ordered.came other number universal owned (before.trans proceeds) (dues dueAt)
    · exact ordered.came other number universal owned proceeds (dues dueAt)
  case later =>
    rw [owner_commit] at ownedOne ownedOther
    rw [isStarted_commit] at startedOne startedOther
    obtain ⟨taken, sooner⟩ :=
      ordered.later number one other ownedOne ownedOther startedOne startedOther less
    -- The earlier trigger was decided before, so the commitment changes nothing of it.
    have unchanged : (state.commit trigger decided callback).1.outcome one = state.outcome one := by
      rw [outcomes]
      split
      · next mine =>
        subst mine
        obtain ⟨outcome, found⟩ := Option.ne_none_iff_exists'.mp taken
        rw [found]
        rfl
      · rfl
    rw [unchanged]
    exact ⟨taken, fun first second proceeds dueOne dueOther =>
      sooner first second proceeds (dues dueOne) (dues dueOther)⟩

/-- A trigger is made for a task whose other triggers are decided, for a time that is ahead. -/
theorem spawned {args : List Value} {due : DateTime} {thread : Thread} {universal : Wall}
    (ordered : Ordered state) (made : Spawned state later number args due thread)
    (settled : Settled state number) (shows : due.IsAt state.setting.zone universal)
    (ahead : state.clock < (universal.micros : Int)) : Ordered later := by
  have newDue : later.IsDueAt state.triggers.size universal :=
    ⟨due, made.due_new, made.setting ▸ shows⟩
  have old : ∀ {trigger task}, later.owner trigger = some task →
      trigger ≠ state.triggers.size → state.owner trigger = some task := by
    intro trigger task owned new
    rwa [owner, made.old trigger new] at owned
  have dues : ∀ {trigger universal}, trigger ≠ state.triggers.size →
      (later.IsDueAt trigger universal ↔ state.IsDueAt trigger universal) := by
    intro trigger universal new
    have same := congrArg Trigger.due (made.old trigger new)
    exact ⟨fun due => due.congr made.setting.symm same.symm,
      fun due => due.congr made.setting same⟩
  refine ⟨fun trigger task owned => ?dated, fun trigger task universal owned proceeds dueAt => ?came,
    fun task one other ownedOne ownedOther startedOne startedOther less => ?later⟩
  case dated =>
    by_cases new : trigger = state.triggers.size
    · exact ⟨universal, new ▸ newDue⟩
    · obtain ⟨universal, due⟩ := ordered.dated trigger task (old owned new)
      exact ⟨universal, (dues new).mpr due⟩
  case came =>
    by_cases new : trigger = state.triggers.size
    · rw [new, made.outcome_new] at proceeds
      cases proceeds
    · rw [outcome, made.old trigger new] at proceeds
      rw [made.clock]
      exact ordered.came trigger task universal (old owned new) proceeds ((dues new).mp dueAt)
  case later =>
    have olderOne : one ≠ state.triggers.size := by
      rintro rfl
      have absent := made.old other (Nat.ne_of_gt less)
      rw [owner, absent, state.trigger_of_le (Nat.le_of_lt less)] at ownedOther
      cases ownedOther
    have beforeOne := old ownedOne olderOne
    have startedBefore : state.isStarted one = true := by
      rwa [isStarted, made.old one olderOne] at startedOne
    have outcomes : later.outcome one = state.outcome one := by
      rw [outcome, made.old one olderOne]; rfl
    rw [outcomes]
    by_cases new : other = state.triggers.size
    · subst new
      obtain rfl := Option.some.inj (made.owner_new.symm.trans ownedOther)
      refine ⟨settled one beforeOne startedBefore, fun first second proceeds dueOne dueOther => ?_⟩
      -- What has proceeded has come, and the new trigger is due after the present.
      have past := ordered.came one _ first beforeOne proceeds ((dues olderOne).mp dueOne)
      rw [← newDue.unique dueOther]
      exact Int.lt_of_le_of_lt past ahead
    · have startedToo : state.isStarted other = true := by
        rwa [isStarted, made.old other new] at startedOther
      obtain ⟨taken, sooner⟩ := ordered.later task one other beforeOne (old ownedOther new)
        startedBefore startedToo less
      exact ⟨taken, fun first second proceeds dueOne dueOther =>
        sooner first second proceeds ((dues olderOne).mp dueOne) ((dues new).mp dueOther)⟩

theorem updateEntry (ordered : Ordered state) (number : Nat) (change : Entry → Entry) :
    Ordered (state.updateEntry number change) :=
  ordered.of_triggers rfl rfl fun _ => rfl

/-- A chain without an undecided trigger is armed for a time that is ahead. -/
theorem arming {args : List Value} {result : Except Failure (Option Report)}
    (ordered : Ordered state) (arming : Arming state number args later result)
    (settled : Settled state number)
    (ahead : ∀ due, state.triggers.size < later.triggers.size →
      (later.trigger state.triggers.size).due = some due → ∃ universal : Wall,
        due.IsAt state.setting.zone universal ∧ state.clock < (universal.micros : Int)) :
    Ordered later := by
  -- A trigger is made in a state that differs from the first one in what was recorded only.
  have made : ∀ {planned spawned : State} {due : DateTime} {thread : Thread},
      Unmoved state planned → Spawned planned spawned number args due thread →
        later.triggers = spawned.triggers → Ordered spawned := by
    intro planned spawned due thread unmoved made triggers
    have size : planned.triggers.size = state.triggers.size := by rw [unmoved.triggers]
    have found : (later.trigger state.triggers.size).due = some due := by
      rw [trigger, triggers, ← size]
      exact made.due_new
    have larger : state.triggers.size < later.triggers.size := by
      rw [triggers, made.size, size]
      exact Nat.lt_succ_self _
    obtain ⟨universal, shows, future⟩ := ahead due larger found
    exact (ordered.neutral unmoved.neutral).spawned made (settled.unmoved unmoved)
      (unmoved.setting ▸ shows) (unmoved.clock ▸ future)
  cases arming with
  | blind => exact ordered
  | left unmoved => exact ordered.neutral unmoved.neutral
  | unplanned report unmoved => exact (ordered.neutral unmoved.neutral).updateEntry _ _
  | unstarted report unmoved spawned => exact (made unmoved spawned rfl).updateEntry _ _
  | armed unmoved spawned armed =>
    exact ((made unmoved spawned armed.triggers).updateEntry _ _).neutral armed.neutral

theorem arm (ordered : Ordered state) (unscripted : state.setting.plans = none)
    (known : state.setting.zone.IsKnown) (settled : Settled state number) (args : List Value)
    {after : Option DateTime}
    (dated : ∀ reached, after = some reached →
      ∃ universal, reached.IsAt state.setting.zone universal) :
    Ordered (state.arm number args after).1 :=
  ordered.arming (arm_arming state number args after) settled fun _ made found =>
    (isPlanned_of_arm unscripted made found).ahead known dated

theorem startChain (ordered : Ordered state) (linked : Linked state)
    (unscripted : state.setting.plans = none) (known : state.setting.zone.IsKnown)
    (idle : (state.entry number).isRunning = false) (mode : Mode) (args : List Value) :
    Ordered (state.startChain number mode args).1 := by
  have stopped : (state.entry number).chain.status ≠ .running := by
    simpa [Entry.isRunning, Entry.chain] using idle
  have begun := ordered.updateEntry number fun entry => entry.begin mode
  have settled : Settled (state.updateEntry number fun entry => entry.begin mode) number :=
    (linked.tasks number).settled_of_idle stopped
  have armed : Ordered ((state.updateEntry number fun entry => entry.begin mode).arm number args
      none).1 := begun.arm unscripted known settled args (by rintro _ ⟨⟩)
  rw [startChain_begun idle]
  generalize (state.updateEntry number fun entry => entry.begin mode).arm number args none =
    result at armed
  obtain ⟨later, failure | report⟩ := result <;> exact armed

theorem stopChain (ordered : Ordered state) (linked : Linked state)
    (running : (state.entry number).status = .running)
    (held : (state.entry number).trigger = some trigger) (callback : Work) :
    Ordered (state.stopChain number callback).1 := by
  have owned := ((linked.tasks number).held trigger held).1
  rw [stopChain_eq running held]
  have stopped := ordered.updateEntry number fun entry => entry.stop trigger callback
  exact (stopped.commit (Local.within_of_owner owned) .redirect _ (by rintro ⟨⟩)).neutral
    (Unmoved.tell _ _ _).neutral

theorem effect {deeds : List Deed} (effect : Effect state deeds later) :
    Ordered state → Linked state → state.setting.plans = none → state.setting.zone.IsKnown →
      Ordered later := by
  induction effect with
  | neutral neutral => exact fun ordered _ _ _ => ordered.neutral neutral
  | start mode args member idle =>
    exact fun ordered linked unscripted known =>
      ordered.startChain linked unscripted known idle mode args
  | stop running held called =>
    exact fun ordered linked _ _ => ordered.stopChain linked running held _
  | trans earlier _ first second =>
    intro ordered linked unscripted known
    have setting := (earlier.grows linked).setting
    exact second (first ordered linked unscripted known) (linked.effect earlier)
      (setting ▸ unscripted) (setting ▸ known)

theorem complain (ordered : Ordered state) (trigger : Nat) (target : Work) (stage : String)
    (failure : Failure) : Ordered (state.complain trigger target stage failure).1 := by
  have grows := complain_grows state trigger target stage failure
  refine ordered.of_triggers grows.setting grows.clock fun other => ?_
  rw [State.trigger, complain_triggers]
  rfl

theorem endRun (ordered : Ordered state) (linked : Linked state)
    (unscripted : state.setting.plans = none) (known : state.setting.zone.IsKnown)
    (owned : state.owner trigger = some number) (decided : state.outcome trigger ≠ none)
    (args : List Value) (mode : Mode) (work : Work) (outcome : Signal) :
    Ordered (state.endRun number trigger args mode work outcome).1 := by
  obtain ⟨noted, counted, ⟨same, -, held⟩ | ⟨same, -⟩⟩ :=
    state.endRun_cases number trigger args mode work outcome
  · have neutral := counted.neutral
    have settled : Settled noted number :=
      ((linked.neutral neutral).tasks number).settled_of_held ((neutral.held number).trans held)
        (neutral.decided trigger decided)
    rw [same]
    refine (ordered.neutral neutral).arm (neutral.setting ▸ unscripted) (neutral.setting ▸ known)
      settled _ fun reached found => ?_
    obtain ⟨universal, time, due, shows⟩ := ordered.dated trigger number owned
    cases due.symm.trans found
    exact ⟨universal, neutral.setting ▸ shows⟩
  · rw [same]
    exact (ordered.neutral counted.neutral).updateEntry _ _

theorem reply {signal : Signal} {frame : Frame} {move : Move} (ordered : Ordered state)
    (linked : Linked state) (unscripted : state.setting.plans = none)
    (known : state.setting.zone.IsKnown) (fits : Fits state agent frame)
    (within : ∀ trigger, frame.CountsDown trigger → trigger < state.triggers.size)
    (reply : Reply state agent signal frame later move) : Ordered later := by
  cases reply with
  | plain _ _ unmoved => exact ordered.neutral unmoved.neutral
  | request _ effect => exact ordered.effect effect linked unscripted known
  | passed => exact ordered
  | dispatched => exact ordered
  | calledBack => exact ordered
  | waits _ _ _ _ unmoved => exact ordered.neutral unmoved.neutral
  | proceeds counts _ left =>
    refine ordered.commit (within _ counts) .proceed none fun _ universal due => ?_
    obtain ⟨remaining, past, left⟩ := left
    obtain ⟨time, instant, found, comes, reached⟩ := comes_of_untilDue left past
    obtain ⟨_, foundToo, shows⟩ := due
    cases found.symm.trans foundToo
    rw [DateTime.comesAt, shows.placed] at comes
    rw [← Except.ok.inj (comes.symm.trans shows.taken)]
    exact reached
  | obeys _ _ unmoved => exact ordered.neutral unmoved.neutral
  | cancelled _ _ _ unmoved => exact ordered.neutral unmoved.neutral
  | breaks fault counts =>
    exact (ordered.commit (within _ counts) .cancel none (by rintro ⟨⟩)).complain _ _ _ _
  | complains => exact ordered.complain _ _ _ _
  | fires _ unmoved => exact (ordered.updateEntry _ _).neutral unmoved.neutral
  | misfires => exact ordered
  | settles => exact ordered.updateEntry _ _
  | ran number trigger args mode work =>
    exact ordered.endRun linked unscripted known fits.2.1 (by rw [fits.2.2.1]; rintro ⟨⟩) _ _ _ _
  | callsBack _ _ _ unmoved => exact ordered.neutral unmoved.neutral
  | regrets => exact ordered.updateEntry _ _

theorem step (ordered : Ordered state) (sound : Sound state)
    (unscripted : state.setting.plans = none) (known : state.setting.zone.IsKnown)
    (stepped : state.step = some next) : Ordered next := by
  have clock := sound.clock_le stepped
  cases step_advance sound.awake stepped with
  | passes agent idle turns => exact ordered.shift turns.toShift clock
  | ends agent signal active turns => exact ordered.shift turns.toShift clock
  | answers agent frame rest signal active same =>
    have replied := sound.replied active
    have later := ordered.reply sound.linked unscripted known (replied.fits sound)
      (fun trigger counts => CountsDown.within sound active counts) replied.reply
    have grows := replied.reply.grows sound.linked
    rw [same] at clock ⊢
    rw [← grows.clock] at clock
    exact later.shift replied.turns.toShift clock

theorem initial (setting : Setting) : Ordered (.initial setting) where
  dated _ _ owned := by cases owned
  came _ _ _ owned := by cases owned
  later _ _ _ owned := by cases owned

end Ordered

/-! ### Along a session -/

def Sooner (state : State) (one other : Nat) : Prop :=
  ∃ first second, (state.trigger one).due = some first ∧
    (state.trigger other).due = some second ∧ Rule.Precedes first second

theorem Tries.due {attempts : List Commitment} {time : DateTime}
    (tries : Tries trigger state attempts later) (found : (state.trigger trigger).due = some time) :
    (later.trigger trigger).due = some time := by
  have within : trigger < state.triggers.size := by
    apply Nat.lt_of_not_le
    intro beyond
    rw [state.trigger_of_le beyond] at found
    cases found
  rw [(tries.alike within).due, found]

theorem Tries.owner {attempts : List Commitment} (tries : Tries trigger state attempts later)
    (owned : state.owner trigger = some number) : later.owner trigger = some number := by
  rw [State.owner, (tries.alike (Local.within_of_owner owned)).errors]
  exact owned

structure MovesForward (state : State) (past : List State) (number : Nat) : Prop where
  /-- A function is called by a trigger whose time has come. -/
  due : ∀ visited ∈ past, ∀ trigger, visited.firing? number = some trigger →
    ∃ time instant, (visited.trigger trigger).due = some time ∧ time.instant = .ok instant ∧
      instant ≤ visited.clock
  /-- The times for which a function is called are later and later. -/
  increasing : (firings number past).Pairwise state.Sooner
  /-- A chain that can go on is armed anew. -/
  resumes : ∀ visited ∈ past, ∀ next trigger, visited.step = some next →
    visited.CanGoOn number trigger → ∃ armed, visited.Rearms next number trigger armed
  /-- A chain that goes on is armed for the least run, by the rule of the task at that moment, that is
  later than the present and than the instant that was fired. -/
  rearms : ∀ visited ∈ past, ∀ next trigger armed, visited.step = some next →
    visited.Rearms next number trigger armed →
      ∃ fired instant run, (visited.trigger trigger).due = some fired ∧
        fired.instant = .ok instant ∧ (next.entry number).nextRun = some run ∧
        (next.trigger armed).due = some run ∧
        (visited.entry number).rule.IsLeastRun visited.setting.zone (max visited.clock instant) run

end State

namespace Trace

variable {setting : Setting} {past : List State} {state : State} {number : Nat}

theorem ordered (trace : Trace (.initial setting) past state) (unscripted : setting.plans = none)
    (known : setting.zone.IsKnown) : state.Ordered := by
  induction trace with
  | refl => exact .initial setting
  | issue operation earlier finished ih =>
    exact ih.shift (State.activateMain_turns (State.mainHasFinished_idle finished) _).toShift
      (Int.le_refl _)
  | step earlier stepped ih =>
    have same := earlier.setting_eq
    exact ih.step (earlier.sound (.initial setting)) (same ▸ unscripted) (same ▸ known) stepped

theorem sooner (trace : Trace (.initial setting) past state) {visited : State}
    (member : visited ∈ state :: past) {one other : Nat} (sooner : visited.Sooner one other) :
    state.Sooner one other := by
  obtain ⟨first, second, dueOne, dueOther, precedes⟩ := sooner
  obtain ⟨_, triedOne⟩ := trace.tries_since one visited member
  obtain ⟨_, triedOther⟩ := trace.tries_since other visited member
  exact ⟨first, second, triedOne.due dueOne, triedOther.due dueOther, precedes⟩

/-- A trigger that calls its task is due after all that have called it before. -/
theorem sooner_of_firing (trace : Trace (.initial setting) past state)
    (unscripted : setting.plans = none) (known : setting.zone.IsKnown) {trigger : Nat}
    (firing : state.firing? number = some trigger) :
    ∀ fired ∈ State.firings number past, state.Sooner fired trigger := by
  intro fired member
  obtain ⟨called, waiting, earlier, rfl, reached, silent, silentToo, owned, started, undecided⟩ :=
    trace.undecided_before firing
  rw [State.firings_cons, State.firings_cons, silent, silentToo] at member
  simp only [Option.toList_none, List.append_nil] at member
  obtain ⟨visited, found, fires⟩ := State.mem_firings.mp member
  have before := List.mem_cons_of_mem waiting found
  obtain ⟨ownedThen, proceedsThen, -⟩ := (reached.sound_of_initial visited before).firing fires
  -- While the trigger still waits, the one that has fired is an earlier one, since a trigger is armed
  -- only when those before it are decided.
  obtain ⟨_, tried⟩ := reached.tries_since fired visited before
  have firedOwned := tried.owner ownedThen
  have proceeds : waiting.outcome fired = some .proceed := by
    rw [State.outcome, reached.decision_lasts before (by rw [proceedsThen]; rintro ⟨⟩)]
    exact proceedsThen
  have firedStarted := (reached.candid fired proceeds).1
  have ordered := reached.ordered unscripted known
  have less : fired < trigger := by
    rcases Nat.lt_trichotomy fired trigger with less | rfl | greater
    · exact less
    · rw [undecided] at proceeds
      cases proceeds
    · exact absurd undecided
        (ordered.later number trigger fired owned firedOwned started firedStarted greater).1
  obtain ⟨first, dueFirst⟩ := ordered.dated fired number firedOwned
  obtain ⟨second, dueSecond⟩ := ordered.dated trigger number owned
  have later := (ordered.later number fired trigger firedOwned owned firedStarted started less).2
    first second proceeds dueFirst dueSecond
  obtain ⟨time, found, shows⟩ := dueFirst
  obtain ⟨further, foundToo, showsToo⟩ := dueSecond
  exact trace.sooner (List.mem_cons_of_mem _ (List.mem_cons_of_mem _ List.mem_cons_self))
    ⟨time, further, found, foundToo, _, _, shows.taken, showsToo.taken, later⟩

theorem firings_increasing (trace : Trace (.initial setting) past state)
    (unscripted : setting.plans = none) (known : setting.zone.IsKnown) (number : Nat) :
    (State.firings number past).Pairwise state.Sooner := by
  induction trace with
  | refl => exact .nil
  | @issue past state operation earlier finished ih =>
    have silent : state.firing? number = none := by
      rw [State.firing?, State.mainHasFinished_idle finished]
    rw [State.firings_cons, silent]
    simp only [Option.toList_none, List.append_nil]
    exact ih.imp fun sooner =>
      (earlier.issue operation finished).sooner (List.mem_cons_of_mem _ List.mem_cons_self) sooner
  | @step past state next earlier stepped ih =>
    have kept : ∀ {one other : Nat}, state.Sooner one other → next.Sooner one other :=
      (earlier.step stepped).sooner (List.mem_cons_of_mem _ List.mem_cons_self)
    rw [State.firings_cons]
    -- At most one call is added, by a trigger that is due after those that have called.
    refine List.pairwise_append.mpr ⟨ih.imp kept, ?_, fun fired member trigger firing => ?_⟩
    · cases state.firing? number <;> simp
    · exact kept (earlier.sooner_of_firing unscripted known (Option.mem_toList.mp firing) fired member)

theorem due_of_endsRun (trace : Trace (.initial setting) past state)
    (unscripted : setting.plans = none) (known : setting.zone.IsKnown) {trigger : Nat}
    (ends : state.EndsRun number trigger) :
    ∃ universal, state.IsDueAt trigger universal ∧ (universal.micros : Int) ≤ state.clock := by
  obtain ⟨agent, args, mode, work, rest, signal, active⟩ := ends
  obtain ⟨-, owned, proceeds, -⟩ := (trace.sound (.initial setting)).fits_active active
    (.fired number trigger args mode work) List.mem_cons_self
  exact (trace.ordered unscripted known).due_of_proceed owned proceeds

/-- By their rules tasks move strictly forward in time, whatever the program does: no function is called
before its time, each call of a task is for a later instant than the one before, and a chain that can go
on does, and is armed for the least run after both the present and the instant that was fired. -/
theorem firings_forward (trace : Trace (.initial setting) past state)
    (unscripted : setting.plans = none) (known : setting.zone.IsKnown) (number : Nat) :
    state.MovesForward past number where
  due visited member trigger firing := by
    obtain ⟨earlier, reached, -⟩ := trace.visited (List.mem_cons_of_mem _ member)
    obtain ⟨owned, proceeds, -⟩ := (reached.sound (.initial setting)).firing firing
    obtain ⟨universal, ⟨time, found, shows⟩, came⟩ :=
      (reached.ordered unscripted known).due_of_proceed owned proceeds
    exact ⟨time, universal.micros, found, shows.taken, came⟩
  increasing := trace.firings_increasing unscripted known number
  resumes visited member next trigger stepped goes := by
    obtain ⟨earlier, reached, -⟩ := trace.visited (List.mem_cons_of_mem _ member)
    obtain ⟨universal, ⟨fired, due, shows⟩, came⟩ :=
      reached.due_of_endsRun unscripted known goes.endsRun
    have same := reached.setting_eq
    exact (reached.sound (.initial setting)).resumes (same ▸ unscripted) (same ▸ known) due shows
      came stepped goes
  rearms visited member next trigger armed stepped rearms := by
    obtain ⟨earlier, reached, -⟩ := trace.visited (List.mem_cons_of_mem _ member)
    obtain ⟨universal, ⟨fired, due, shows⟩, -⟩ :=
      reached.due_of_endsRun unscripted known rearms.ends
    have same := reached.setting_eq
    obtain ⟨run, nextRun, dated, least⟩ := (reached.sound (.initial setting)).rearms
      (same ▸ unscripted) (same ▸ known) due shows stepped rearms
    exact ⟨fired, universal.micros, run, due, shows.taken, nextRun, dated, least⟩

/-- A task that is called every minute has been called twice and is armed anew. -/
theorem firings_forward_minutes : ∃ past state,
    Trace (.initial (.ofRules 0 .universal)) past state ∧ (state.entry 0).runs = 2 ∧
      (state.entry 0).trigger = some 2 ∧ state.MovesForward past 0 := by
  have begun : Trace (.initial (.ofRules 0 .universal)) [] _ := .refl
  obtain ⟨_, added⟩ := begun.perform rfl
    ⟨.add "job" (.text "* * * * *") (.script "work" []), true⟩
  obtain ⟨_, started⟩ := added.perform rfl ⟨.start "job" .chain [], true⟩
  obtain ⟨_, late⟩ := started.perform rfl ⟨.advance 150000000, true⟩
  exact ⟨_, _, late, rfl, rfl, late.firings_forward rfl (by rintro _ ⟨⟩) 0⟩

end Trace

end Timetable
