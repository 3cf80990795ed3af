import Timetable.Proofs.Machine.Reply

/-! The stacks of a machine.

Every runner has a stack, whether it runs or is put aside. A step changes the stack of the active
runner and no other, and only a reply changes more than who runs.
-/

set_option autoImplicit false

namespace Timetable

def Thread.stack : Thread → List Frame
  | .suspended stack => stack
  | .unstarted | .running | .ended => []

def Main.stack : Main → List Frame
  | .waiting stack _ _ => stack
  | .finished _ | .running => []

namespace State

def parked (state : State) : Agent → List Frame
  | .main => state.main.stack
  | .thread trigger => (state.trigger trigger).thread.stack

def stackOf (state : State) (agent : Agent) : List Frame :=
  match state.active with
  | some active => if active.agent = agent then active.stack else state.parked agent
  | none => state.parked agent

def signalOf (state : State) (agent : Agent) : Signal :=
  match state.active with
  | some active => if active.agent = agent then active.signal else .ok .null
  | none => .ok .null

def Awake (state : State) : Prop :=
  ∀ trigger stack signal, state.active = some ⟨.thread trigger, stack, signal⟩ →
    (state.trigger trigger).thread = .running

structure Shift (state later : State) : Prop where
  setting : later.setting = state.setting
  entries : later.entries = state.entries
  registered : later.registered = state.registered
  labels : later.labels = state.labels
  triggers : later.triggers.size = state.triggers.size
  trigger : ∀ trigger,
    later.trigger trigger = { state.trigger trigger with thread := (later.trigger trigger).thread }
  started : ∀ trigger, later.isStarted trigger = state.isStarted trigger

variable {state later : State} {agent : Agent}

namespace Shift

theorem entry (shift : Shift state later) (number : Nat) :
    later.entry number = state.entry number := by
  rw [State.entry, shift.entries]; rfl

theorem owner (shift : Shift state later) (trigger : Nat) :
    later.owner trigger = state.owner trigger := by
  rw [State.owner, shift.trigger]; rfl

theorem outcome (shift : Shift state later) (trigger : Nat) :
    later.outcome trigger = state.outcome trigger := by
  rw [State.outcome, shift.trigger]; rfl

theorem args (shift : Shift state later) (trigger : Nat) :
    (later.trigger trigger).args = (state.trigger trigger).args := by
  rw [shift.trigger]

theorem tidy (shift : Shift state later) (tidy : state.Tidy) : later.Tidy := by
  constructor
  · simpa only [shift.entry] using tidy.works
  · intro trigger free
    rw [shift.owner] at free
    rw [shift.trigger]
    exact tidy.free trigger free
  · simpa only [shift.owner, shift.labels, shift.triggers] using tidy.labels
  · simpa only [shift.entries, shift.registered] using tidy.range
  · simpa only [shift.entry, shift.registered] using tidy.unique
  · simpa only [shift.entry, shift.registered] using tidy.running

end Shift

theorem stackOf_active {stack : List Frame} {signal : Signal}
    (active : state.active = some ⟨agent, stack, signal⟩) : state.stackOf agent = stack := by
  simp [stackOf, active]

theorem signalOf_active {stack : List Frame} {signal : Signal}
    (active : state.active = some ⟨agent, stack, signal⟩) : state.signalOf agent = signal := by
  simp [signalOf, active]

theorem stackOf_other {stack : List Frame} {signal : Signal} {other : Agent}
    (active : state.active = some ⟨agent, stack, signal⟩) (different : other ≠ agent) :
    state.stackOf other = state.parked other := by
  simp [stackOf, active, Ne.symm different]

theorem signalOf_other {stack : List Frame} {signal : Signal} {other : Agent}
    (active : state.active = some ⟨agent, stack, signal⟩) (different : other ≠ agent) :
    state.signalOf other = .ok .null := by
  simp [signalOf, active, Ne.symm different]

theorem within_of_isStarted {trigger : Nat} (started : state.isStarted trigger = true) :
    trigger < state.triggers.size := by
  apply Nat.lt_of_not_le
  intro beyond
  rw [isStarted, state.trigger_of_le beyond] at started
  cases started

theorem isStarted_iff {trigger : Nat} :
    state.isStarted trigger = true ↔ (state.trigger trigger).thread ≠ .unstarted := by
  unfold isStarted
  cases (state.trigger trigger).thread <;> simp

theorem isStarted_of_running {trigger : Nat}
    (running : (state.trigger trigger).thread = .running) : state.isStarted trigger = true :=
  isStarted_iff.mpr (by rw [running]; rintro ⟨⟩)

theorem shift_thread (state : State) {trigger : Nat} (started : state.isStarted trigger = true)
    (thread : Thread) (kept : thread ≠ .unstarted) :
    Shift state (state.updateTrigger trigger fun trigger => { trigger with thread }) := by
  have changed : ∀ other,
      ((state.updateTrigger trigger fun trigger => { trigger with thread }).trigger other) =
        if other = trigger ∧ trigger < state.triggers.size then
          { state.trigger other with thread } else state.trigger other :=
    fun other => trigger_updateTrigger state trigger other _
  refine ⟨rfl, rfl, rfl, rfl, Store.size_update .., fun other => ?_, fun other => ?_⟩
  · rw [changed]; split <;> rfl
  · by_cases same : other = trigger ∧ trigger < state.triggers.size
    · rw [same.1, started, isStarted_iff, changed, if_pos ⟨rfl, same.2⟩]
      exact kept
    · rw [isStarted, changed, if_neg same]; rfl

theorem thread_updateTrigger {trigger : Nat} (within : trigger < state.triggers.size)
    (thread : Thread) (other : Nat) :
    ((state.updateTrigger trigger fun trigger => { trigger with thread }).trigger other).thread =
      if other = trigger then thread else (state.trigger other).thread := by
  rw [trigger_updateTrigger]
  by_cases same : other = trigger
  · rw [if_pos ⟨same, within⟩, if_pos same]
  · rw [if_neg fun both => same both.1, if_neg same]

/-- `Turns state later agent stack signal`: nothing but who runs has changed, and `agent` is left with
a stack and a signal. -/
structure Turns (state later : State) (agent : Agent) (stack : List Frame) (signal : Signal) :
    Prop extends Shift state later where
  awake : later.Awake
  stack : later.stackOf agent = stack
  signal : later.signalOf agent = signal
  otherStacks : ∀ other, other ≠ agent → later.stackOf other = state.stackOf other
  otherSignals : ∀ other, other ≠ agent → later.signalOf other = state.signalOf other

theorem parked_congr {other : Agent} (main : other = .main → later.main = state.main)
    (thread : ∀ trigger, other = .thread trigger →
      (later.trigger trigger).thread = (state.trigger trigger).thread) :
    later.parked other = state.parked other := by
  cases other with
  | main => simp only [parked, main rfl]
  | thread trigger => simp only [parked, thread trigger rfl]

theorem resume_turns {old stack : List Frame} {before signal : Signal} (awake : state.Awake)
    (active : state.active = some ⟨agent, old, before⟩) :
    Turns state { state with active := some ⟨agent, stack, signal⟩ } agent stack signal where
  toShift := ⟨rfl, rfl, rfl, rfl, rfl, fun _ => rfl, fun _ => rfl⟩
  awake trigger _ _ same := by
    obtain ⟨rfl, -⟩ := Active.mk.inj (Option.some.inj same)
    exact awake trigger _ _ active
  stack := stackOf_active rfl
  signal := signalOf_active rfl
  otherStacks other different := by
    rw [stackOf_other rfl different, stackOf_other active different]; rfl
  otherSignals other different := by
    rw [signalOf_other rfl different, signalOf_other active different]

theorem leaveMain_turns {old : List Frame} {before : Signal}
    (active : state.active = some ⟨.main, old, before⟩) (main : Main) :
    Turns state { state with active := none, main := main } .main main.stack (.ok .null) where
  toShift := ⟨rfl, rfl, rfl, rfl, rfl, fun _ => rfl, fun _ => rfl⟩
  awake := by rintro _ _ _ ⟨⟩
  stack := rfl
  signal := rfl
  otherStacks other different := by
    rw [stackOf_other active different]
    exact parked_congr (fun same => absurd same different) fun _ _ => rfl
  otherSignals other different := by rw [signalOf_other active different]; rfl

theorem leaveThread_turns {trigger : Nat} {old : List Frame} {before : Signal}
    (awake : state.Awake) (active : state.active = some ⟨.thread trigger, old, before⟩)
    (thread : Thread) (kept : thread ≠ .unstarted) (ready : List Nat) (waiting : List Waiter) :
    Turns state
      { state.updateTrigger trigger fun trigger => { trigger with thread } with
        active := none, ready := ready, waiting := waiting }
      (.thread trigger) thread.stack (.ok .null) := by
  have started := isStarted_of_running (awake trigger _ _ active)
  have shift := state.shift_thread started thread kept
  have threads := thread_updateTrigger (within_of_isStarted started) thread
  refine ⟨⟨rfl, rfl, rfl, rfl, shift.triggers, shift.trigger, shift.started⟩, (by rintro _ _ _ ⟨⟩), ?_, rfl,
    ?_, ?_⟩
  · exact congrArg Thread.stack ((threads trigger).trans (if_pos rfl))
  · intro other different
    rw [stackOf_other active different]
    refine parked_congr (fun _ => rfl) fun trigger same => (threads trigger).trans (if_neg ?_)
    rintro rfl
    exact different same
  · intro other different
    rw [signalOf_other active different]; rfl

theorem make_turns {old : List Frame} {before : Signal} (awake : state.Awake)
    (active : state.active = some ⟨agent, old, before⟩) (rest : List Frame) (move : Move) :
    Turns state (state.make agent rest move) agent (move.frames ++ rest) move.signal := by
  cases move with
  | resume frames signal => exact resume_turns awake active
  | wait frames pause deadline =>
    cases agent with
    | main => exact leaveMain_turns active (.waiting (frames ++ rest) pause deadline)
    | thread trigger =>
      exact leaveThread_turns awake active (.suspended (frames ++ rest)) (by rintro ⟨⟩) _ _

theorem finish_turns {old : List Frame} {before : Signal} (awake : state.Awake)
    (active : state.active = some ⟨agent, old, before⟩) (signal : Signal) :
    Turns state (state.finish agent signal) agent [] (.ok .null) := by
  cases agent with
  | main => exact leaveMain_turns active _
  | thread trigger => exact leaveThread_turns awake active .ended (by rintro ⟨⟩) _ _

/-! ### Steps -/

theorem stackOf_none (idle : state.active = none) : state.stackOf agent = state.parked agent := by
  simp [stackOf, idle]

theorem signalOf_none (idle : state.active = none) : state.signalOf agent = .ok .null := by
  simp [signalOf, idle]

theorem activateMain_turns (idle : state.active = none) (stack : List Frame) :
    Turns state (state.activateMain stack) .main stack (.ok .null) where
  toShift := ⟨rfl, rfl, rfl, rfl, rfl, fun _ => rfl, fun _ => rfl⟩
  awake := by rintro _ _ _ ⟨⟩
  stack := rfl
  signal := rfl
  otherStacks other different := by
    rw [stackOf_other rfl different, stackOf_none idle]
    exact parked_congr (fun same => absurd same different) fun _ _ => rfl
  otherSignals other different := by rw [signalOf_other rfl different, signalOf_none idle]

theorem activate_turns (idle : state.active = none) (trigger : Nat) :
    ∃ agent, Turns state (state.activate trigger) agent (state.stackOf agent) (.ok .null) := by
  unfold activate
  cases thread : (state.trigger trigger).thread with
  | suspended stack =>
    have started := isStarted_iff.mpr (show (state.trigger trigger).thread ≠ .unstarted by
      rw [thread]; rintro ⟨⟩)
    have shift := state.shift_thread started .running (by rintro ⟨⟩)
    have threads := thread_updateTrigger (within_of_isStarted started) .running
    refine ⟨.thread trigger, ⟨rfl, rfl, rfl, rfl, shift.triggers, shift.trigger, shift.started⟩,
      ?awake, ?stack, signalOf_active rfl, ?otherStacks, ?otherSignals⟩
    case awake =>
      intro other _ _ same
      obtain ⟨rfl, -⟩ := Agent.thread.inj (Active.mk.inj (Option.some.inj same)).1
      exact (threads trigger).trans (if_pos rfl)
    case stack =>
      rw [stackOf_none idle, stackOf_active rfl]
      simp only [parked, thread, Thread.stack]
    case otherStacks =>
      intro other different
      rw [stackOf_other rfl different, stackOf_none idle]
      refine parked_congr (fun _ => rfl) fun trigger same => (threads trigger).trans (if_neg ?_)
      rintro rfl
      exact different same
    case otherSignals =>
      intro other different
      rw [signalOf_other rfl different, signalOf_none idle]
  | _ =>
    refine ⟨.main, ⟨rfl, rfl, rfl, rfl, rfl, fun _ => rfl, fun _ => rfl⟩, ?_, rfl,
      signalOf_none idle, fun _ _ => rfl, fun _ _ => rfl⟩
    intro _ _ _ active
    rw [idle] at active; cases active

/-- `Passed state next`: what becomes of a machine where every thread waits. The main program goes on if
it has what it waits for; or time passes until a thread or the main program has waited long enough. -/
inductive Passed (state : State) : State → Prop where
  | goesOn (stack : List Frame) (pause : Pause) (deadline : Option Instant) :
      state.main = .waiting stack pause deadline → state.holds pause = true →
      Passed state (state.activateMain stack)
  | wakes (stack : List Frame) (pause : Pause) (deadline : Option Instant) (time : Instant)
      (waiter : Waiter) : state.main = .waiting stack pause deadline →
      state.holds pause = false → earliest deadline state.waiting = some (time, waiter) →
      Passed state { state with
        clock := max state.clock time
        ready := [waiter.thread]
        waiting := state.waiting.erase waiter }
  | expires (stack : List Frame) (pause : Pause) (time : Instant) :
      state.main = .waiting stack pause (some time) → state.holds pause = false →
      earliest (some time) state.waiting = none →
      Passed state (activateMain { state with clock := max state.clock time } stack)

/-- `Stepped state next`: what a step does. The topmost frame of the active runner answers, or the
runner comes to its end; where nobody runs, a thread goes on that is ready to, or time passes. -/
inductive Stepped (state next : State) : Prop where
  | answers (agent : Agent) (frame : Frame) (rest : List Frame) (signal : Signal) :
      state.active = some ⟨agent, frame :: rest, signal⟩ →
      next = (state.answer agent signal frame).1.make agent rest
        (state.answer agent signal frame).2 → Stepped state next
  | finishes (agent : Agent) (signal : Signal) : state.active = some ⟨agent, [], signal⟩ →
      next = state.finish agent signal → Stepped state next
  | activates (trigger : Nat) (others : List Nat) : state.active = none →
      state.ready = trigger :: others → next = activate { state with ready := others } trigger →
      Stepped state next
  | passes : state.active = none → state.ready = [] → Passed state next → Stepped state next

theorem passTime_passed {next : State} (passed : state.passTime = some next) :
    Passed state next := by
  unfold passTime at passed
  split at passed
  · cases passed
  · cases passed
  · next stack pause deadline main =>
    split at passed
    · next holds =>
      cases passed
      exact .goesOn stack pause deadline main holds
    · next lacks =>
      have lacks : state.holds pause = false := by simpa using lacks
      split at passed
      · next time waiter found =>
        cases passed
        exact .wakes stack pause _ time waiter main lacks found
      · next time found =>
        cases passed
        exact .expires stack pause time main lacks found
      · cases passed

theorem step_stepped {next : State} (stepped : state.step = some next) : Stepped state next := by
  unfold step at stepped
  split at stepped
  · next active running =>
    cases stepped
    obtain ⟨agent, stack, signal⟩ := active
    cases stack with
    | nil => exact .finishes agent signal running rfl
    | cons frame rest =>
      refine .answers agent frame rest signal running ?_
      cases signal <;> rfl
  · next trigger others idle queue =>
    cases stepped
    exact .activates trigger others idle queue rfl
  · next idle queue => exact .passes idle queue (passTime_passed stepped)

theorem eq_of_active {next : State} {frame : Frame} {rest : List Frame} {signal : Signal}
    (active : state.active = some ⟨agent, frame :: rest, signal⟩)
    (stepped : state.step = some next) :
    next = (state.answer agent signal frame).1.make agent rest
      (state.answer agent signal frame).2 := by
  rw [step, active] at stepped
  cases signal <;> exact (Option.some.inj stepped).symm

theorem eq_of_finished {next : State} {signal : Signal}
    (active : state.active = some ⟨agent, [], signal⟩) (stepped : state.step = some next) :
    next = state.finish agent signal := by
  rw [step, active] at stepped
  exact (Option.some.inj stepped).symm

/-- Who a step leaves to go on: a runner that was put aside, none once a runner has come to its end, or
whom the topmost frame of the active runner asks for. -/
inductive Advance (state next : State) : Prop where
  | passes (agent : Agent) : state.active = none →
      Turns state next agent (state.stackOf agent) (.ok .null) → Advance state next
  | ends (agent : Agent) (signal : Signal) : state.active = some ⟨agent, [], signal⟩ →
      Turns state next agent [] (.ok .null) → Advance state next
  | answers (agent : Agent) (frame : Frame) (rest : List Frame) (signal : Signal) :
      state.active = some ⟨agent, frame :: rest, signal⟩ →
      next = (state.answer agent signal frame).1.make agent rest
        (state.answer agent signal frame).2 → Advance state next

theorem Passed.turns {next : State} (idle : state.active = none) (passed : Passed state next) :
    ∃ agent, Turns state next agent (state.stackOf agent) (.ok .null) := by
  have stacked : ∀ {stack : List Frame} {pause : Pause} {deadline : Option Instant},
      state.main = .waiting stack pause deadline → state.stackOf .main = stack := by
    intro stack pause deadline main
    rw [stackOf_none idle]
    simp only [parked, main, Main.stack]
  cases passed with
  | goesOn stack pause deadline main =>
    exact ⟨.main, stacked main ▸ activateMain_turns idle stack⟩
  | wakes =>
    refine ⟨.main, ⟨rfl, rfl, rfl, rfl, rfl, fun _ => rfl, fun _ => rfl⟩, ?_, rfl,
      signalOf_none idle, fun _ _ => rfl, fun _ _ => rfl⟩
    intro _ _ _ active
    exact absurd (idle.symm.trans active) (by rintro ⟨⟩)
  | expires stack pause time main =>
    have turns := activateMain_turns idle stack
    exact ⟨.main, ⟨rfl, rfl, rfl, rfl, rfl, fun _ => rfl, fun _ => rfl⟩, (by rintro _ _ _ ⟨⟩),
      (stacked main).symm, rfl, turns.otherStacks, turns.otherSignals⟩

theorem step_advance {next : State} (awake : state.Awake) (stepped : state.step = some next) :
    Advance state next := by
  cases step_stepped stepped with
  | answers agent frame rest signal active same =>
    exact .answers agent frame rest signal active same
  | finishes agent signal active same =>
    exact .ends agent signal active (same ▸ finish_turns awake active signal)
  | activates trigger others idle _ same =>
    obtain ⟨agent, turns⟩ :=
      activate_turns (show { state with ready := others }.active = none from idle) trigger
    subst same
    exact .passes agent idle ⟨⟨turns.setting, turns.entries, turns.registered, turns.labels,
      turns.triggers, turns.trigger, turns.started⟩, turns.awake, turns.stack, turns.signal,
      turns.otherStacks, turns.otherSignals⟩
  | passes idle _ passed =>
    obtain ⟨agent, turns⟩ := passed.turns idle
    exact .passes agent idle turns

end State

end Timetable
