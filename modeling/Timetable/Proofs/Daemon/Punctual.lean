import Timetable.Proofs.Chain.Forward
import Timetable.Proofs.Chain.Queued
import Timetable.Proofs.Daemon.Manned
import Timetable.Proofs.Number.Rounding
import Timetable.Proofs.Runs.Horizon

/-! Tasks are run on time.

Along a session in which tasks are started and awaited, time passes while every thread waits, and then no
further than to the earliest deadline. A thread that awaits the time of its trigger does so until then at
the latest, so that the clock shows the time of a trigger when its task is run.
-/

set_option autoImplicit false

namespace Timetable

theorem DateTime.IsAt.untilDue {time : DateTime} {zone : Zone} {universal : Wall}
    {clock : Instant} {machine : MachineZone} {remaining : Int} (shows : time.IsAt zone universal)
    (left : Timetable.untilDue clock (some time) machine = .ok remaining) :
    remaining = max ((universal.micros : Int) - clock) 0 := by
  have taken : time.instant = .ok (universal.micros : Int) := shows.taken
  rw [untilDue_zoned (by rw [shows.placed]; rfl), taken] at left
  obtain ⟨wall, present, rfl⟩ := mapped_eq_ok.mp left
  rw [Wall.ofMicros_eq_ok.mp present]

namespace State

variable {names : List String} {state later next : State} {agent : Agent} {number trigger : Nat}
  {frame : Frame} {rest : List Frame} {signal : Signal} {move : Move} {universal : Wall}

/-! ### What an answer does -/

inductive Acts (state : State) (agent : Agent) : State × Move → Prop where
  | tells {later : State} {move : Move} : OnlyTells state later → Acts state agent (later, move)
  | starts (number : Nat) (mode : Mode) (args : List Value) : agent = .main →
      (state.entry number).isRunning = false →
      Acts state agent (state.startChain number mode args)
  | counts (number trigger : Nat) : agent = .thread trigger → state.owner trigger = some number →
      state.outcome trigger = none → Acts state agent (state.countdown trigger)
  | fires (number : Nat) (time : DateTime) {later : State} {move : Move} :
      OnlyTells (state.updateEntry number fun entry => entry.noteRun time) later →
      Acts state agent (later, move)
  | ends (number trigger : Nat) (args : List Value) (mode : Mode) (work : Work)
      (outcome : Signal) : agent = .thread trigger → state.owner trigger = some number →
      state.outcome trigger = some .proceed →
      Acts state agent (state.endRun number trigger args mode work outcome)
  | complains (number trigger : Nat) (target : Work) (stage : String) (failure : Failure) :
      agent = .thread trigger → state.owner trigger = some number →
      Acts state agent (state.complain trigger target stage failure)

theorem answer_counts (counts : frame.CountsDown trigger) (undecided : state.outcome trigger = none)
    (value : Value) : state.answer agent (.ok value) frame = state.countdown trigger := by
  cases counts with
  | countdown => rfl
  | waited =>
    have open_ : ¬ (state.trigger trigger).decision.isCommitted = true := fun committed =>
      (isCommitted_iff state trigger).mp committed undecided
    exact if_neg open_

theorem Serves.acts (serves : Serves number trigger (state.standing number trigger))
    (owned : state.owner trigger = some number)
    (fits : ∀ other ∈ frame :: rest, Fits state (.thread trigger) other)
    (active : state.active = some ⟨.thread trigger, frame :: rest, signal⟩) :
    Acts state (.thread trigger) (state.answer (.thread trigger) signal frame) := by
  have stack : (state.standing number trigger).stack = frame :: rest := stackOf_active active
  have given : (state.standing number trigger).signal = signal := signalOf_active active
  cases serves with
  | waits first value counts stacked ok undecided =>
    obtain ⟨rfl, rfl⟩ := List.cons.inj (stack.symm.trans stacked)
    obtain rfl := given.symm.trans ok
    rw [answer_counts counts undecided]
    exact .counts number trigger rfl owned undecided
  | calls args value stacked ok =>
    obtain ⟨rfl, rfl⟩ := List.cons.inj (stack.symm.trans stacked)
    obtain rfl := given.symm.trans ok
    show Acts state _ (state.fire number trigger args)
    unfold fire
    split
    · exact .tells rfl
    · next time _ => exact .fires number time rfl
  | runs above args mode work all stacked =>
    cases above with
    | nil =>
      obtain ⟨rfl, rfl⟩ := List.cons.inj (stack.symm.trans stacked)
      obtain ⟨-, -, proceeds, -⟩ := fits _ List.mem_cons_self
      cases signal with
      | ok value => exact .ends number trigger args mode work (.ok value) rfl owned proceeds
      | error failure =>
        show Acts state _ (state.handle failure (.fired number trigger args mode work))
        unfold handle
        split
        · exact .tells rfl
        · exact .ends number trigger args mode work (.error failure) rfl owned proceeds
    | cons first above =>
      obtain ⟨rfl, rfl⟩ := List.cons.inj (stack.symm.trans stacked)
      exact .tells (answer_brief (all frame List.mem_cons_self) signal).1
  | fails failure stacked failed =>
    obtain ⟨rfl, rfl⟩ := List.cons.inj (stack.symm.trans stacked)
    obtain rfl := given.symm.trans failed
    show Acts state _ (state.handle failure (.dispatched trigger (.fire number trigger)))
    unfold handle
    split
    · exact .tells rfl
    · exact .complains number trigger _ _ failure rfl owned

theorem Manned.acts (manned : Manned names state)
    (active : state.active = some ⟨agent, frame :: rest, signal⟩) :
    Acts state agent (state.answer agent signal frame) := by
  cases agent with
  | main =>
    have stack := stackOf_active active
    have attends := manned.main frame (by rw [stack]; exact List.mem_cons_self)
    rcases (answer_main manned.silent attends signal).2 with
      tells | ⟨name, mode, args, number, value, -, -, -, -, idle, same⟩
    · exact .tells tells
    · rw [same]
      exact .starts number mode args rfl idle
  | thread trigger =>
    obtain ⟨number, owned, started⟩ := manned.owner_active active
    rcases manned.manned number trigger owned started with ⟨serves, -⟩ | concludes
    · exact serves.acts owned (manned.sound.fits_active active) active
    · obtain ⟨value, rfl, last, -⟩ := concludes.active active
      exact .tells (answer_last _ manned.silent last value).1

/-! ### Queues -/

theorem Queues.tells (tells : OnlyTells state later) : Queues state later := by
  rw [tells]
  exact .of_same rfl rfl fun _ => rfl

theorem Queues.dispatch (state : State) (trigger : Nat) :
    Queues state (state.dispatch trigger).1 := by
  unfold State.dispatch
  dsimp only
  split <;> exact .of_same rfl rfl fun _ => rfl

theorem Queues.countdown (owned : state.owner trigger = some number) :
    Queues state (state.countdown trigger).1 := by
  unfold State.countdown
  dsimp only
  split
  · next fault _ =>
    have decided := Queues.commit state trigger .cancel none
    have kept := owner_commit state trigger .cancel none trigger
    generalize state.commit trigger .cancel none = committed at decided kept
    obtain ⟨later, _ | _⟩ := committed
    · exact decided.trans (.dispatch _ _)
    · exact decided.trans (.complain (kept.trans owned) _ _ _)
  · next remaining _ =>
    split
    · exact (Queues.commit _ _ _ _).trans (.dispatch _ _)
    · have noted : Queues state (if state.setting.tracesWaits = true then state.record
          (.wait state.elapsed (some (throughSeconds (min remaining state.setting.longestWait))))
            else state) := by
        split <;> exact .of_same rfl rfl fun _ => rfl
      unfold awaitDecision
      dsimp only
      generalize (if state.setting.tracesWaits = true then _ else state) = waiting at noted ⊢
      split
      · exact noted.trans (.dispatch _ _)
      · exact noted

theorem Acts.queues {result : State × Move} (acts : Acts state agent result) :
    Queues state result.1 := by
  cases acts with
  | tells tells => exact .tells tells
  | starts number mode args => exact .startChain _ _ _ _
  | counts number trigger _ owned => exact .countdown owned
  | fires number time tells => exact (Queues.updateEntry _ _ _).trans (.tells tells)
  | ends number trigger args mode work outcome => exact .endRun _ _ _ _ _ _ _
  | complains number trigger target stage failure _ owned => exact .complain owned _ _ _

/-! ### Plans -/

def Plans (state later : State) : Prop :=
  ∀ trigger number universal, state.triggers.size ≤ trigger → later.owner trigger = some number →
    later.IsDueAt trigger universal →
      state.clock < (universal.micros : Int) ∧ (universal.micros : Int) < state.clock + horizonMicros

theorem Arming.size_le {args : List Value} {result : Except Failure (Option Report)}
    (arming : Arming state number args later result) :
    later.triggers.size ≤ state.triggers.size + 1 := by
  cases arming with
  | blind => exact Nat.le_succ _
  | left unmoved => rw [unmoved.triggers]; exact Nat.le_succ _
  | unplanned _ unmoved =>
    rw [breakOff, State.updateEntry, unmoved.triggers]
    exact Nat.le_succ _
  | unstarted _ unmoved spawned =>
    rw [breakOff, State.updateEntry, spawned.size, unmoved.triggers]
  | armed unmoved spawned armed =>
    rw [armed.triggers, State.updateEntry, spawned.size, unmoved.triggers]

namespace Plans

theorem of_size (same : later.triggers.size = state.triggers.size) : Plans state later :=
  fun _ _ _ beyond owned _ =>
    absurd (Local.within_of_owner owned) (Nat.not_lt.mpr (same ▸ beyond))

theorem of_neutral {middle : State} (clock : middle.clock = state.clock)
    (size : middle.triggers.size = state.triggers.size) (plans : Plans middle later) :
    Plans state later := by
  intro trigger number universal beyond owned due
  rw [← clock]
  exact plans trigger number universal (size ▸ beyond) owned due

/-- A chain that is not ahead of the clock is armed by its rule for a time near the present. -/
theorem arm (unscripted : state.setting.plans = none) (known : state.setting.zone.IsKnown)
    (args : List Value) {after : Option DateTime}
    (reached : ∀ time, after = some time → ∃ universal : Wall,
      time.IsAt state.setting.zone universal ∧ (universal.micros : Int) ≤ state.clock) :
    Plans state (state.arm number args after).1 := by
  intro trigger task universal beyond owned due
  have arming := arm_arming state number args after
  have setting := arming.local.setting
  have within := Local.within_of_owner owned
  obtain rfl : trigger = state.triggers.size :=
    Nat.le_antisymm (Nat.le_of_lt_succ (Nat.lt_of_lt_of_le within arming.size_le)) beyond
  obtain ⟨time, found, shows⟩ := due
  rw [setting] at shows
  have planned := isPlanned_of_arm unscripted within found
  obtain ⟨ahead, showsToo, later⟩ := planned.ahead known fun time same =>
    (reached time same).imp fun _ shown => shown.1
  obtain same : (ahead.micros : Int) = universal.micros :=
    Except.ok.inj (showsToo.taken.symm.trans shows.taken)
  exact ⟨same ▸ later, planned.near known reached shows⟩

end Plans

theorem size_commit (state : State) (trigger : Nat) (outcome : Outcome) (callback : Option Work) :
    (state.commit trigger outcome callback).1.triggers.size = state.triggers.size := by
  rcases state.commit_decision trigger outcome callback with ⟨-, same, -⟩ | ⟨-, same, -⟩
  · rw [same]
  · rw [same]
    exact Store.size_update _ _ _

theorem triggers_dispatch (state : State) (trigger : Nat) :
    (state.dispatch trigger).1.triggers = state.triggers := by
  unfold dispatch
  dsimp only
  split <;> rfl

theorem triggers_awaitDecision (state : State) (trigger : Nat) (remaining : Int) :
    (state.awaitDecision trigger remaining).1.triggers = state.triggers := by
  have noted : (if state.setting.tracesWaits = true then state.record (.wait state.elapsed
      (some (throughSeconds (min remaining state.setting.longestWait)))) else state).triggers =
        state.triggers := by
    split <;> rfl
  unfold awaitDecision
  dsimp only
  generalize (if state.setting.tracesWaits = true then _ else state) = waiting at noted ⊢
  split
  · rw [triggers_dispatch, noted]
  · exact noted

theorem size_countdown (state : State) (trigger : Nat) :
    (state.countdown trigger).1.triggers.size = state.triggers.size := by
  unfold countdown
  dsimp only
  split
  · next fault _ =>
    have size := size_commit state trigger .cancel none
    generalize state.commit trigger .cancel none = committed at size
    obtain ⟨later, _ | _⟩ := committed
    · show (later.dispatch trigger).1.triggers.size = _
      rw [triggers_dispatch, size]
    · show (later.complain trigger (state.trigger trigger).work "waiting for"
        fault.failure).1.triggers.size = _
      rw [complain_triggers, size]
  · split
    · rw [triggers_dispatch, size_commit]
    · rw [triggers_awaitDecision]

theorem Acts.plans {result : State × Move} (acts : Acts state agent result)
    (ordered : Ordered state) (unscripted : state.setting.plans = none)
    (known : state.setting.zone.IsKnown) : Plans state result.1 := by
  cases acts with
  | tells tells => exact .of_size (congrArg Store.size tells.unmoved.triggers)
  | starts number mode args _ idle =>
    unfold State.startChain
    rw [if_neg (by rw [idle]; rintro ⟨⟩)]
    dsimp only
    have setting : (state.updateEntry number fun entry => entry.begin mode).setting =
      state.setting := rfl
    have clock : (state.updateEntry number fun entry => entry.begin mode).clock = state.clock := rfl
    have size : (state.updateEntry number fun entry => entry.begin mode).triggers.size =
      state.triggers.size := rfl
    generalize (state.updateEntry number fun entry => entry.begin mode) = begun at setting clock size ⊢
    have armed : Plans state (begun.arm number args none).1 := .of_neutral clock size
      (.arm (setting ▸ unscripted) (setting ▸ known) args (by rintro _ ⟨⟩))
    generalize begun.arm number args none = result at armed ⊢
    obtain ⟨later, failure | report⟩ := result <;> exact armed
  | counts number trigger => exact .of_size (size_countdown _ _)
  | fires number time tells => exact .of_size (congrArg Store.size tells.unmoved.triggers)
  | ends number trigger args mode work outcome _ owned proceeds =>
    obtain ⟨noted, counted, ⟨same, -⟩ | ⟨same, -⟩⟩ :=
      state.endRun_cases number trigger args mode work outcome
    · have neutral := counted.neutral
      obtain ⟨universal, ⟨time, found, shows⟩, past⟩ := ordered.due_of_proceed owned proceeds
      rw [same]
      refine .of_neutral neutral.clock counted.unmoved.2.2 (.arm (neutral.setting ▸ unscripted)
        (neutral.setting ▸ known) _ fun reached due => ?_)
      cases found.symm.trans due
      exact ⟨universal, neutral.setting ▸ shows, neutral.clock ▸ past⟩
    · rw [same]
      exact .of_size counted.unmoved.2.2
  | complains number trigger target stage failure =>
    exact .of_size (congrArg Store.size (complain_triggers _ _ _ _ _))

/-! ### Deadlines -/

theorem exceeds_iff {limit : Option Instant} {time : Instant} :
    limit.any (fun limit => decide (limit < time)) = true ↔
      ∃ bound, limit = some bound ∧ bound < time := by
  cases limit <;> simp

/-- Of the deadlines of those that wait, the earliest one is found, unless all are after the limit. -/
theorem earliest_le {limit : Option Instant} {time : Instant} {waiter : Waiter} :
    ∀ {waiting : List Waiter}, waiter ∈ waiting → waiter.deadline = some time →
      (∃ found, earliest limit waiting = some found ∧ found.1 ≤ time) ∨
        earliest limit waiting = none ∧ ∃ bound, limit = some bound ∧ bound < time
  | first :: rest, member, deadline => by
    unfold earliest
    rcases List.mem_cons.mp member with rfl | member
    · rw [deadline]
      cases earliest limit rest with
      | none =>
        dsimp only
        split
        · next beyond => exact .inr ⟨rfl, exceeds_iff.mp beyond⟩
        · exact .inl ⟨_, rfl, Int.le_refl _⟩
      | some later =>
        dsimp only
        split
        · exact .inl ⟨_, rfl, Int.le_refl _⟩
        · next after => exact .inl ⟨_, rfl, Int.le_of_lt (Int.not_le.mp after)⟩
    · rcases earliest_le member deadline with ⟨found, same, early⟩ | ⟨none, bound, same, less⟩
      · rw [same]
        cases first.deadline with
        | none => exact .inl ⟨found, rfl, early⟩
        | some own =>
          dsimp only
          split
          · next sooner => exact .inl ⟨_, rfl, Int.le_trans sooner early⟩
          · exact .inl ⟨found, rfl, early⟩
      · rw [none]
        cases first.deadline with
        | none => exact .inr ⟨rfl, bound, same, less⟩
        | some own =>
          dsimp only
          split
          · exact .inr ⟨rfl, bound, same, less⟩
          · next within =>
            refine .inl ⟨_, rfl, Int.le_trans (Int.not_lt.mp fun beyond => ?_) (Int.le_of_lt less)⟩
            exact within (exceeds_iff.mpr ⟨bound, same, beyond⟩)

def Queued (state : State) (trigger : Nat) (limit : Int) : Prop :=
  trigger ∈ state.ready ∨ ∃ waiter ∈ state.waiting, waiter.thread = trigger ∧
    ∃ deadline, waiter.deadline = some deadline ∧ deadline ≤ limit

theorem Queued.mono {limit : Int} (queued : state.Queued trigger limit)
    (queues : Queues state later) : later.Queued trigger limit := by
  rcases queued with member | ⟨waiter, member, own, inTime⟩
  · exact .inl (queues.ready trigger member)
  · rcases queues.waiting waiter member with member | member
    · exact .inr ⟨waiter, member, own, inTime⟩
    · exact .inl (own ▸ member)

/-- Time passes no further than to the deadline of a thread that waits. -/
theorem Queued.passed {limit : Int} (queued : state.Queued trigger limit)
    (empty : state.ready = []) (ahead : state.clock ≤ limit) (passed : Passed state next) :
    next.clock ≤ limit ∧ next.Queued trigger limit := by
  rcases queued with member | ⟨waiter, member, own, deadline, waits, inTime⟩
  · rw [empty] at member
    cases member
  cases passed with
  | goesOn => exact ⟨ahead, .inr ⟨waiter, member, own, deadline, waits, inTime⟩⟩
  | wakes _ _ bound time woken _ _ found =>
    rcases earliest_le member waits with ⟨first, same, early⟩ | ⟨none, -, -, -⟩
    · cases same.symm.trans found
      refine ⟨Int.max_le.mpr ⟨ahead, Int.le_trans early inTime⟩, ?_⟩
      by_cases first : waiter = woken
      · exact .inl (List.mem_singleton.mpr (first ▸ own.symm))
      · exact .inr ⟨waiter, (List.mem_erase_of_ne first).mpr member, own, deadline, waits, inTime⟩
    · cases none.symm.trans found
  | expires _ _ time _ _ late =>
    rcases earliest_le member waits with ⟨first, same, -⟩ | ⟨-, bound, same, less⟩
    · cases same.symm.trans late
    · cases same
      exact ⟨Int.max_le.mpr ⟨ahead, Int.le_trans (Int.le_of_lt less) inTime⟩,
        .inr ⟨waiter, member, own, deadline, waits, inTime⟩⟩

theorem Queued.activate {limit : Int} {first : Nat} {others : List Nat} {stack : List Frame}
    (queued : state.Queued trigger limit) (ready : state.ready = first :: others)
    (suspended : (state.trigger trigger).thread = .suspended stack) :
    (∃ stack signal, ({ state with ready := others }.activate first).active =
        some ⟨.thread trigger, stack, signal⟩) ∨
      ({ state with ready := others }.activate first).Queued trigger limit := by
  have kept : ({ state with ready := others }.activate first).ready = others ∧
      ({ state with ready := others }.activate first).waiting = state.waiting := by
    unfold State.activate
    split <;> exact ⟨rfl, rfl⟩
  rcases queued with member | waits
  · rw [ready] at member
    rcases List.mem_cons.mp member with rfl | member
    · refine .inl ⟨stack, .ok .null, ?_⟩
      unfold State.activate
      rw [show ({ state with ready := others } : State).trigger trigger = state.trigger trigger from rfl,
        suspended]
    · exact .inr (.inl (kept.1.symm ▸ member))
  · exact .inr (.inr (kept.2.symm ▸ waits))

theorem Queued.make {limit : Int} (queued : state.Queued trigger limit) (agent : Agent)
    (rest : List Frame) (move : Move) : (state.make agent rest move).Queued trigger limit := by
  cases move with
  | resume => exact queued
  | wait =>
    cases agent with
    | main => exact queued
    | thread =>
      refine queued.imp_right ?_
      rintro ⟨waiter, member, waits⟩
      refine ⟨waiter, ?_, waits⟩
      exact List.mem_append_left _ member

theorem Queued.finish {limit : Int} (queued : state.Queued trigger limit) (agent : Agent)
    (signal : Signal) : (state.finish agent signal).Queued trigger limit := by
  cases agent with
  | main => exact queued
  | thread ended =>
    have kept : ({ state.updateTrigger ended fun trigger => { trigger with thread := .ended } with
        active := none } : State).Queued trigger limit := queued
    exact kept.mono (.wake _ _)

/-! ### Sessions on time -/

structure Awaited (state : State) (trigger : Nat) (universal : Wall) : Prop where
  owned : ∃ number, state.owner trigger = some number
  started : state.isStarted trigger = true
  undecided : state.outcome trigger = none
  due : state.IsDueAt trigger universal

theorem Awaited.shift (awaited : later.Awaited trigger universal) (shift : Shift state later) :
    state.Awaited trigger universal where
  owned := by rw [← shift.owner]; exact awaited.owned
  started := (shift.started trigger).symm.trans awaited.started
  undecided := (shift.outcome trigger).symm.trans awaited.undecided
  due := awaited.due.congr shift.setting.symm (by rw [shift.trigger])

structure Punctual (state : State) : Prop where
  ordered : Ordered state
  upright : Upright state
  ahead : ∀ trigger universal, state.Awaited trigger universal →
    state.clock ≤ (universal.micros : Int)
  near : ∀ trigger universal, state.Awaited trigger universal →
    (universal.micros : Int) < state.clock + horizonMicros
  queued : ∀ trigger universal, state.Awaited trigger universal →
    (∃ stack signal, state.active = some ⟨.thread trigger, stack, signal⟩) ∨
      state.Queued trigger universal.micros
  prompt : ∀ trigger number args rest signal, state.active =
    some ⟨.thread trigger, .call (.fire number trigger) args :: rest, signal⟩ →
      ∃ time, state.now = .ok time

/-- A thread that awaits the time of its trigger does nothing else. -/
theorem Manned.awaits (manned : Manned names state) (awaited : state.Awaited trigger universal) :
    ∃ frame value, frame.CountsDown trigger ∧ state.stackOf (.thread trigger) = [frame] ∧
      state.signalOf (.thread trigger) = .ok value := by
  obtain ⟨number, owned⟩ := awaited.owned
  have open_ : ∀ target, .dispatched trigger target ∉ state.stackOf (.thread trigger) :=
    fun target member => (manned.sound.fits _ _ member).2 awaited.undecided
  rcases manned.manned number trigger owned awaited.started with ⟨serves, -⟩ | concludes
  · cases serves with
    | waits frame value counts stack ok => exact ⟨frame, value, counts, stack, ok⟩
    | calls args value stack =>
      refine absurd ?_ (open_ (.fire number trigger))
      rw [show state.stackOf (.thread trigger) = _ from stack]
      exact List.mem_cons_of_mem _ List.mem_cons_self
    | runs above args mode work brief stack =>
      refine absurd ?_ (open_ (.fire number trigger))
      rw [show state.stackOf (.thread trigger) = _ from stack]
      exact List.mem_append_right _ (List.mem_cons_of_mem _ List.mem_cons_self)
    | fails failure stack =>
      refine absurd ?_ (open_ (.fire number trigger))
      rw [show state.stackOf (.thread trigger) = _ from stack]
      exact List.mem_cons_self
  · exact absurd awaited.undecided concludes.decided

/-- A thread that counts down to the time of its trigger is that of an undecided one. -/
theorem Manned.undecided (manned : Manned names state)
    (active : state.active = some ⟨.thread trigger, frame :: rest, signal⟩)
    (counts : frame.CountsDown trigger) (owned : state.owner trigger = some number) :
    state.outcome trigger = none := by
  obtain ⟨-, -, started⟩ := manned.owner_active active
  have stack : (state.standing number trigger).stack = frame :: rest := stackOf_active active
  rcases manned.manned number trigger owned started with ⟨serves, -⟩ | concludes
  · cases serves with
    | waits _ _ _ _ _ undecided => exact undecided
    | calls _ _ same => cases (List.cons.inj (stack.symm.trans same)).1; cases counts
    | runs above _ _ _ brief same =>
      cases above with
      | nil => cases (List.cons.inj (stack.symm.trans same)).1; cases counts
      | cons first above =>
        cases (List.cons.inj (stack.symm.trans same)).1
        have short := brief frame List.mem_cons_self
        cases counts <;> cases short
    | fails _ same => cases (List.cons.inj (stack.symm.trans same)).1; cases counts
  · obtain ⟨-, -, last, -⟩ := concludes.active active
    cases counts <;> cases last

theorem Awaited.deadline (awaited : state.Awaited trigger universal)
    (near : (universal.micros : Int) < state.clock + horizonMicros)
    (undecided : (state.countdown trigger).1.outcome trigger = none) :
    ∃ pause deadline, (state.countdown trigger).2 =
        .wait [.waited trigger] pause (some deadline) ∧ deadline ≤ (universal.micros : Int) := by
  have within := within_of_isStarted awaited.started
  have committed : ∀ outcome : Outcome, ∀ later : State,
      later.triggers = (state.commit trigger outcome none).1.triggers →
        later.outcome trigger ≠ none := by
    intro outcome later same
    rw [State.outcome, State.trigger, same]
    show (state.commit trigger outcome none).1.outcome trigger ≠ none
    rw [outcome_commit within, if_pos rfl]
    rintro ⟨⟩
  obtain ⟨time, found, shows⟩ := awaited.due
  revert undecided
  unfold State.countdown
  dsimp only
  cases left : untilDue state.clock (state.trigger trigger).due state.setting.home with
  | error fault =>
    intro undecided
    rw [commit_undecided awaited.undecided] at undecided
    refine absurd undecided (committed .cancel _ ?_)
    rw [complain_triggers, commit_undecided awaited.undecided]
  | ok remaining =>
    dsimp only
    split
    · intro undecided
      exact absurd undecided (committed .proceed _ (triggers_dispatch _ _))
    · next ahead =>
      intro _
      have open_ : ¬ (state.trigger trigger).decision.isCommitted = true := fun committed =>
        (isCommitted_iff state trigger).mp committed awaited.undecided
      refine ⟨.decision trigger,
        state.clock + throughSeconds (min remaining state.setting.longestWait), ?_, ?_⟩
      · unfold awaitDecision
        cases state.setting.tracesWaits <;> exact congrArg Prod.snd (if_neg open_)
      · obtain rfl := shows.untilDue (found ▸ left)
        have positive : 0 < (universal.micros : Int) - state.clock :=
          (lt_max_iff.mp (Int.not_le.mp ahead)).resolve_right (Int.lt_irrefl 0)
        have short : (universal.micros : Int) - state.clock < 2 ^ 46 := by
          unfold horizonMicros at near
          omega
        rw [Int.max_eq_left (Int.le_of_lt positive)]
        exact Int.add_le_of_le_sub_left (throughSeconds_le (Int.min_le_left _ _)
          (Int.le_of_lt positive) short)

structure OnTime (state : State) (trigger : Nat) (universal : Wall) : Prop where
  ahead : state.clock ≤ (universal.micros : Int)
  near : (universal.micros : Int) < state.clock + horizonMicros
  queued : (∃ stack signal, state.active = some ⟨.thread trigger, stack, signal⟩) ∨
    state.Queued trigger universal.micros

namespace Punctual

theorem suspended (manned : Manned names state) (idle : state.active = none)
    (awaited : state.Awaited trigger universal) :
    ∃ frame, (state.trigger trigger).thread = .suspended [frame] := by
  obtain ⟨frame, value, -, stack, -⟩ := manned.awaits awaited
  rw [stackOf_none idle] at stack
  refine ⟨frame, ?_⟩
  change (state.trigger trigger).thread.stack = [frame] at stack
  cases thread : (state.trigger trigger).thread with
  | suspended frames => rw [thread] at stack; exact congrArg _ stack
  | unstarted => rw [thread] at stack; cases stack
  | running => rw [thread] at stack; cases stack
  | ended => rw [thread] at stack; cases stack

theorem waits (punctual : Punctual state) (before : state.Awaited trigger universal)
    (aside : ∀ stack signal, state.active ≠ some ⟨.thread trigger, stack, signal⟩) :
    state.Queued trigger universal.micros := by
  rcases punctual.queued trigger universal before with ⟨stack, signal, active⟩ | queued
  · exact absurd active (aside stack signal)
  · exact queued

/-- A trigger that awaits its time after an answer did so before, or has been made by it. -/
theorem onTime_answer (punctual : Punctual state) (manned : Manned names state)
    (known : state.setting.zone.IsKnown) (stepped : state.step = some next)
    (active : state.active = some ⟨agent, frame :: rest, signal⟩)
    (awaited : next.Awaited trigger universal) : next.OnTime trigger universal := by
  have sound := manned.sound
  have replied := sound.replied_step active stepped
  have grows := replied.reply.grows sound.linked
  have acts := manned.acts active
  have same : next = (state.answer agent signal frame).1.make agent rest
      (state.answer agent signal frame).2 := eq_of_active active stepped
  have clock : next.clock = state.clock := by
    rw [same, clock_make, grows.clock]
  have awaits := awaited.shift replied.turns.toShift
  obtain ⟨number, owned⟩ := awaits.owned
  by_cases beyond : state.triggers.size ≤ trigger
  · obtain ⟨ahead, near⟩ := acts.plans punctual.ordered manned.unscripted known trigger number
      universal beyond owned awaits.due
    refine ⟨clock ▸ Int.le_of_lt ahead, clock ▸ near, .inr ?_⟩
    rw [same]
    refine Queued.make (.inl ?_) _ _ _
    refine (acts.queues.started trigger awaits.started).resolve_left fun started => ?_
    exact absurd (within_of_isStarted started) (Nat.not_lt.mpr beyond)
  obtain ⟨task, inside⟩ := manned.local_active active
  have within := Nat.lt_of_not_le beyond
  have before : state.Awaited trigger universal := by
    refine ⟨⟨number, (inside.owner_eq within).symm.trans owned⟩, ?_, ?_, ?_⟩
    · have started := awaits.started
      rwa [isStarted, inside.kept trigger within] at started
    · by_contra decided
      exact grows.decided trigger decided awaits.undecided
    · exact awaits.due.congr inside.setting.symm (by rw [inside.kept trigger within])
  refine ⟨clock ▸ punctual.ahead _ _ before, clock ▸ punctual.near _ _ before, .inr ?_⟩
  by_cases own : agent = .thread trigger
  · subst own
    obtain ⟨first, value, counts, stack, ok⟩ := manned.awaits before
    obtain ⟨rfl, rfl⟩ := List.cons.inj ((stackOf_active active).symm.trans stack)
    obtain rfl := (signalOf_active active).symm.trans ok
    have undecided := awaits.undecided
    rw [answer_counts counts before.undecided] at same undecided
    obtain ⟨pause, deadline, move, inTime⟩ :=
      before.deadline (punctual.near _ _ before) undecided
    rw [same, move]
    exact .inr ⟨⟨trigger, pause, some deadline⟩,
      List.mem_append_right _ List.mem_cons_self, rfl, deadline, rfl, inTime⟩
  · rw [same]
    refine Queued.make (Queued.mono ?_ acts.queues) _ _ _
    exact punctual.waits before fun _ _ mine => own (by rw [active] at mine; cases mine; rfl)

theorem onTime_step (punctual : Punctual state) (manned : Manned names state)
    (known : state.setting.zone.IsKnown) (stepped : state.step = some next)
    (awaited : next.Awaited trigger universal) : next.OnTime trigger universal := by
  have sound := manned.sound
  have waits : ∀ {trigger universal}, state.active = none → state.Awaited trigger universal →
      state.Queued trigger universal.micros := by
    intro trigger universal idle before
    exact punctual.waits before fun _ _ mine => by rw [idle] at mine; cases mine
  cases step_stepped stepped with
  | answers agent frame rest signal active =>
    exact punctual.onTime_answer manned known stepped active awaited
  | finishes agent signal active same =>
    subst same
    have turns := finish_turns sound.awake active signal
    have before := awaited.shift turns.toShift
    have clock : (state.finish agent signal).clock = state.clock := clock_finish _ _ _
    refine ⟨clock ▸ punctual.ahead _ _ before, clock ▸ punctual.near _ _ before, .inr ?_⟩
    refine Queued.finish ?_ agent signal
    -- A thread that ends awaits nothing.
    refine punctual.waits before fun _ _ mine => ?_
    rw [active] at mine
    cases mine
    obtain ⟨frame, -, -, busy, -⟩ := manned.awaits before
    cases (stackOf_active active).symm.trans busy
  | activates first others idle queue same =>
    subst same
    obtain ⟨agent, turns⟩ := @activate_turns { state with ready := others } idle first
    obtain ⟨owned, started, undecided, due⟩ := awaited.shift turns.toShift
    have before : state.Awaited trigger universal := ⟨owned, started, undecided, due⟩
    obtain ⟨frame, suspended⟩ := suspended manned idle before
    refine ⟨?_, ?_, (waits idle before).activate queue suspended⟩
    · rw [clock_activate]; exact punctual.ahead _ _ before
    · rw [clock_activate]; exact punctual.near _ _ before
  | passes idle queue passed =>
    obtain ⟨agent, turns⟩ := passed.turns idle
    have before := awaited.shift turns.toShift
    have ahead := punctual.ahead _ _ before
    obtain ⟨inTime, queued⟩ := (waits idle before).passed queue ahead passed
    have near := punctual.near _ _ before
    exact ⟨inTime, Int.lt_of_lt_of_le near (Int.add_le_add_right passed.clock _), .inr queued⟩

theorem prompt_step (punctual : Punctual state) (manned : Manned names state)
    (stepped : state.step = some next) {args : List Value}
    (active : next.active =
      some ⟨.thread trigger, .call (.fire number trigger) args :: rest, signal⟩) :
    ∃ time, next.now = .ok time := by
  have sound := manned.sound
  obtain ⟨frame, base, below, value, running, calling, -⟩ :=
    punctual.upright.calling sound stepped active
  have replied := sound.replied_step running stepped
  obtain ⟨target, -, counts, owned, -⟩ := sound.linked.calling_fire (replied.fits sound) calling
  obtain ⟨task, -, started⟩ := manned.owner_active running
  have same : next = (state.answer (.thread trigger) (.ok value) frame).1.make (.thread trigger)
      below (state.answer (.thread trigger) (.ok value) frame).2 := eq_of_active running stepped
  have now : next.now = state.now := by
    have grows := replied.reply.grows sound.linked
    rw [State.now, State.now, same, clock_make, grows.clock, ← same, replied.turns.toShift.setting,
      grows.setting]
  have undecided := manned.undecided running counts owned
  have counted := replied.reply.counted counts
  generalize (state.answer (.thread trigger) (.ok value) frame).1 = later at same counted
  generalize (state.answer (.thread trigger) (.ok value) frame).2 = move at same counted
  cases counted with
  | waits => rw [same] at active; cases active
  | proceeds _ left =>
    obtain ⟨remaining, past, left⟩ := left
    obtain ⟨universal, time, found, shows⟩ := punctual.ordered.dated trigger number owned
    have awaited : state.Awaited trigger universal :=
      ⟨⟨number, owned⟩, started, undecided, time, found, shows⟩
    -- The time has come, and it has not passed.
    have reached := shows.untilDue (found ▸ left)
    have present : state.clock = universal.micros := by
      refine Int.le_antisymm (punctual.ahead _ _ awaited) (Int.le_of_sub_nonpos ?_)
      exact Int.le_trans (Int.le_max_left _ 0) (reached ▸ past)
    obtain ⟨fold, shown⟩ := shows.shown
    exact ⟨_, by rw [now, State.now, present, shown]⟩
  | obeys called => exact absurd undecided (target?_decided called)
  | cancelled decided => exact absurd undecided decided
  | breaks fault =>
    obtain ⟨report, text, -, complained⟩ := complain_owned
      ((owner_commit state trigger .cancel none trigger).trans owned) (state.trigger trigger).work
      "waiting for" fault.failure
    rw [same, complained] at active
    cases active

theorem step (punctual : Punctual state) (manned : Manned names state)
    (known : state.setting.zone.IsKnown) (stepped : state.step = some next) : Punctual next where
  ordered := punctual.ordered.step manned.sound manned.unscripted known stepped
  upright := punctual.upright.step manned.sound stepped
  ahead _ _ awaited := (punctual.onTime_step manned known stepped awaited).ahead
  near _ _ awaited := (punctual.onTime_step manned known stepped awaited).near
  queued _ _ awaited := (punctual.onTime_step manned known stepped awaited).queued
  prompt _ _ _ _ _ active := punctual.prompt_step manned stepped active

theorem issue (punctual : Punctual state) (finished : state.mainHasFinished = true)
    (operation : Operation) : Punctual (state.issue operation) := by
  have idle := mainHasFinished_idle finished
  have shift := (activateMain_turns idle [.perform operation]).toShift
  refine ⟨punctual.ordered.shift shift (Int.le_refl _), punctual.upright.issue finished operation,
    fun _ _ awaited => punctual.ahead _ _ (awaited.shift shift),
    fun _ _ awaited => punctual.near _ _ (awaited.shift shift), fun _ _ awaited => ?_, ?_⟩
  · refine .inr ((punctual.queued _ _ (awaited.shift shift)).resolve_left ?_)
    rintro ⟨stack, signal, active⟩
    rw [idle] at active
    cases active
  · rintro _ _ _ _ _ ⟨⟩

end Punctual

end State

theorem Attended.punctual {names : List String} {first state : State} {past : List State}
    (manned : first.Manned names) (punctual : first.Punctual)
    (known : first.setting.zone.IsKnown) (attended : Attended names first past state) :
    state.Punctual := by
  induction attended with
  | refl => exact punctual
  | issue operation earlier finished attends ih => exact ih.issue finished operation
  | step earlier stepped ih =>
    exact ih.step (earlier.manned manned) (earlier.setting_eq manned ▸ known) stepped

end Timetable
