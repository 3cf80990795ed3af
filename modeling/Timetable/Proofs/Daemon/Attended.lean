import Timetable.Proofs.Chain.Retained
import Timetable.Proofs.Chain.Tended

/-! Sessions in which tasks are started and awaited.

A main program that does no more than start tasks and wait leaves every chain to its own thread. The thread
of a trigger is at work for its task, and then the task runs and holds the trigger; or it only tells of
errors and comes to its end. A task that was started runs until its thread gives it up.
-/

set_option autoImplicit false

namespace Timetable

def Operation.attends (names : List String) : Operation → Bool
  | .start name _ _ => decide (name ∈ names)
  | .advance _ => true
  | _ => false

/-- `Attended names first past state`: a trace along which the main program starts tasks of some names
and waits, and does nothing else. -/
inductive Attended (names : List String) (first : State) : List State → State → Prop where
  | refl : Attended names first [] first
  | issue {past : List State} {state : State} (operation : Operation) :
      Attended names first past state → state.mainHasFinished = true →
      operation.attends names = true → Attended names first (state :: past) (state.issue operation)
  | step {past : List State} {state next : State} :
      Attended names first past state → state.step = some next →
      Attended names first (state :: past) next

def Frame.attends (names : List String) : Frame → Bool
  | .perform operation => operation.attends names
  | .give _ | .report _ | .interrupted => true
  | _ => false

def Frame.isBrief : Frame → Bool
  | .call (.library _) _ | .give _ => true
  | _ => false

def Frame.isLast : Frame → Bool
  | .report _ | .sunk _ | .dispatched _ _ => true
  | _ => false

namespace State

inductive Serves (number trigger : Nat) (standing : Standing) : Prop where
  | waits (frame : Frame) (value : Value) : frame.CountsDown trigger → standing.stack = [frame] →
      standing.signal = .ok value → standing.outcome = none → Serves number trigger standing
  | calls (args : List Value) (value : Value) :
      standing.stack = [.call (.fire number trigger) args,
        .dispatched trigger (.fire number trigger)] →
      standing.signal = .ok value → Serves number trigger standing
  | runs (above : List Frame) (args : List Value) (mode : Mode) (work : Work) :
      (∀ frame ∈ above, frame.isBrief = true) →
      standing.stack = above ++ [.fired number trigger args mode work,
        .dispatched trigger (.fire number trigger)] →
      Serves number trigger standing
  /-- The run could not be begun, or what it failed with asks to leave, or no further run could be sought. -/
  | fails (failure : Failure) :
      standing.stack = [.dispatched trigger (.fire number trigger)] →
      standing.signal = .error failure → Serves number trigger standing

structure Concludes (standing : Standing) : Prop where
  last : ∀ frame ∈ standing.stack, frame.isLast = true
  calm : standing.stack ≠ [] → ∃ value, standing.signal = .ok value
  decided : standing.outcome ≠ none

/-- `GivesUp state number report`: the next step ends the chain of a task, since no run could be planned
or armed, or the time of one could not be waited for. -/
inductive GivesUp (state : State) (number : Nat) (report : Report) : Prop where
  /-- The task is started, and no run can be planned or armed. -/
  | unstarted (name : String) (mode : Mode) (args : List Value) (rest : List Frame)
      (value : Value) : state.active = some ⟨.main, .perform (.start name mode args) :: rest, .ok value⟩ →
      state.find? name = some number →
      ((state.updateEntry number fun entry => entry.begin mode).arm number args none).2 =
        .ok (some report) → GivesUp state number report
  /-- A run has come to its end, and no further one can be planned or armed. -/
  | unarmed (trigger : Nat) (args : List Value) (mode : Mode) (work : Work) (rest : List Frame)
      (outcome : Signal) (noted : State) :
      state.active = some ⟨.thread trigger, .fired number trigger args mode work :: rest, outcome⟩ →
      Noted number state noted →
      (noted.arm number (nextArgs mode args outcome) (state.trigger trigger).due).2 =
        .ok (some report) → GivesUp state number report
  /-- A run has come to its end, and clocks show no time after which a further one could be planned. -/
  | unseen (trigger : Nat) (args : List Value) (mode : Mode) (work : Work) (rest : List Frame)
      (outcome : Signal) (fault : Fault) :
      state.active = some ⟨.thread trigger, .fired number trigger args mode work :: rest, outcome⟩ →
      state.now = .error fault →
      report = triggerReport (state.trigger trigger) (.fire number trigger) "running" fault.failure →
      GivesUp state number report
  | unawaited (trigger : Nat) (frame : Frame) (rest : List Frame) (value : Value) (fault : Fault) :
      state.active = some ⟨.thread trigger, frame :: rest, .ok value⟩ → frame.CountsDown trigger →
      state.owner trigger = some number → state.outcome trigger = none →
      untilDue state.clock (state.trigger trigger).due state.setting.home = .error fault →
      report = triggerReport (state.trigger trigger) (.fire number trigger) "waiting for"
        fault.failure → GivesUp state number report

def Founders (state : State) (number : Nat) (report : Report) : Prop :=
  ∃ trigger rest failure, state.active =
      some ⟨.thread trigger, .dispatched trigger (.fire number trigger) :: rest, .error failure⟩ ∧
    failure.leaves = false ∧
    report = triggerReport (state.trigger trigger) (.fire number trigger) "running" failure

variable {names : List String} {state later next : State} {agent : Agent} {number trigger : Nat}
  {frame : Frame} {rest : List Frame} {signal : Signal} {move : Move}

def OnlyTells (state later : State) : Prop :=
  later = { state with events := later.events, log := later.log }

theorem OnlyTells.unmoved (tells : OnlyTells state later) : Unmoved state later := by
  rw [tells]
  exact ⟨rfl, rfl, rfl, rfl, rfl, rfl, rfl, rfl⟩

/-! ### Names -/

theorem find?_congr (registered : later.registered = state.registered)
    (named : ∀ number, (later.entry number).name = (state.entry number).name) (name : String) :
    later.find? name = state.find? name := by
  simp only [find?, registered, named]

theorem Shift.find? (shift : Shift state later) (name : String) :
    later.find? name = state.find? name :=
  find?_congr shift.registered (fun number => by rw [shift.entry]) name

theorem Local.find? (inside : Local number state later) (name : String) :
    later.find? name = state.find? name := by
  refine find?_congr inside.registered (fun task => ?_) name
  by_cases own : task = number
  · rw [own, inside.name]
  · rw [inside.others task own]

/-! ### Chains that end -/

structure BrokeOff (state : State) (number : Nat) (report : Report) : Prop where
  idle : (state.entry number).isRunning = false
  told : (state.entry number).lastError = some report.message

theorem breakOff_brokeOff (within : number < state.entries.size) (report : Report) :
    BrokeOff (state.breakOff number report) number report := by
  have entry : (state.breakOff number report).entry number =
      (state.entry number).breakOff report.message := by
    rw [State.breakOff, entry_updateEntry_self within]
  constructor <;> rw [entry] <;> rfl

/-- What arming a task that runs comes to, where no planner asks to leave. -/
theorem Arming.armed_or {args : List Value} {result : Except Failure (Option Report)}
    (unscripted : state.setting.plans = none) (within : number < state.entries.size)
    (running : (state.entry number).isRunning = true)
    (arming : Arming state number args later result) :
    (∃ fault, state.now = .error fault ∧ result = .error fault.failure ∧ later = state) ∨
      result = .ok none ∧ later.stoppable? number = some state.triggers.size ∨
      ∃ report, result = .ok (some report) ∧ BrokeOff later number report := by
  cases arming with
  | blind fault blind => exact .inl ⟨fault, blind, rfl, rfl⟩
  | left _ _ scripted =>
    obtain ⟨plans, given, -⟩ := scripted
    rw [unscripted] at given
    cases given
  | unplanned report unmoved =>
    exact .inr (.inr ⟨report, rfl, breakOff_brokeOff (by rwa [unmoved.entries]) report⟩)
  | unstarted report unmoved spawned =>
    exact .inr (.inr ⟨report, rfl,
      breakOff_brokeOff (by rwa [spawned.entries, unmoved.entries]) report⟩)
  | armed unmoved spawned armed =>
    refine .inr (.inl ⟨rfl, stoppable?_iff.mpr ?_⟩)
    rw [armed.entry, entry_updateEntry, spawned.entry, unmoved.entry,
      if_pos ⟨rfl, by rwa [spawned.entries, unmoved.entries]⟩]
    exact ⟨running, rfl⟩

theorem complain_brokeOff (within : number < state.entries.size)
    (owned : state.owner trigger = some number)
    (held : (state.entry number).trigger = some trigger)
    (unstopped : (state.entry number).stopCallback? trigger = none) (target : Work)
    (stage : String) (failure : Failure) :
    BrokeOff (state.complain trigger target stage failure).1 number
        (triggerReport (state.trigger trigger) target stage failure) ∧
      ∃ text, (state.complain trigger target stage failure).2 =
        .go [.report (triggerReport (state.trigger trigger) target stage failure), .sunk text] := by
  have errors := errors_of_owner owned
  unfold complain abandonChain
  dsimp only
  rw [errors]
  dsimp only
  rw [if_pos held, unstopped]
  refine ⟨?_, _, rfl⟩
  have broke := breakOff_brokeOff within (triggerReport (state.trigger trigger) target stage failure)
  constructor
  · rw [entry_updateEntry]
    split <;> exact broke.idle
  · rw [entry_updateEntry]
    split <;> exact broke.told

end State

end Timetable
