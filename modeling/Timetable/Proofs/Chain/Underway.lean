import Timetable.Proofs.Chain.Passage
import Timetable.Proofs.Chain.Final
import Timetable.Proofs.Chain.Books

/-! Starts that restarts have put off.

The restart of a task that runs stops its chain, and puts off a start until the stop has settled. As
long as nobody else starts the task, it is idle until the thread of the trigger makes that start,
and errors of the task are those of the run of the trigger and those that others have recorded.
-/

set_option autoImplicit false

namespace Timetable

def Deed.starts (number : Nat) : Deed → Bool
  | .started task => decide (task = number)
  | _ => false

namespace State

def failures (runs : List (Mode × Signal)) : Nat :=
  runs.countP fun run => !run.2.isOk

def runsOf (trigger : Nat) (past : List State) : List (Mode × Signal) :=
  (Ledger.of trigger (history past)).runs

def starts (number : Nat) (past : List State) : Nat :=
  (history past).countP (Deed.starts number)

/-- The number of errors of a task that others than the thread of a trigger have recorded along a
session. -/
def errorsBeside (number trigger : Nat) (past : List State) : Nat :=
  (past.flatMap fun visited => visited.reported ++ visited.unreported).countP fun note =>
    decide (note.task = number ∧ note.agent ≠ .thread trigger)

/-- The thread of a trigger has yet to make the start that a restart has put off until then. -/
structure Underway (first : State) (name : String) (number trigger : Nat) (mode : Mode)
    (args : List Value) (later : List State) (state : State) : Prop where
  found : state.find? name = some number
  owned : state.owner trigger = some number
  started : state.isStarted trigger = true
  given : (state.trigger trigger).args = (first.trigger trigger).args
  idle : (state.entry number).isRunning = false
  held : ∀ other, (state.entry number).trigger = some other → other = trigger
  unstarted : starts number later = 0
  errors : (state.entry number).errors = (first.entry number).errors +
    failures (runsOf trigger later) + errorsBeside number trigger later
  stage : Passage number trigger (.resume name mode args) (first.trigger trigger).args
      (state.standing number trigger) (runsOf trigger later) ∨
    CallsBack number trigger (.resume name mode args)
      (threaded (first.trigger trigger).args (runsOf trigger later))
      (state.standing number trigger)

/-- What becomes of an idle task that is started: it waits for a run, or an error is counted as no
run could be planned. -/
inductive TakesUp (state next : State) (number : Nat) (mode : Mode) (args : List Value) : Prop where
  | waits (armed : Nat) : state.triggers.size ≤ armed → next.stoppable? number = some armed →
      (next.entry number).nextRun ≠ none → (next.entry number).mode = mode →
      (next.snapshot (next.entry number)).pendingArgs = args →
      (next.entry number).errors = (state.entry number).errors →
      TakesUp state next number mode args
  | breaksOff : (next.entry number).isRunning = false → (next.entry number).trigger = none →
      (next.entry number).mode = mode →
      (next.entry number).errors = (state.entry number).errors + 1 →
      TakesUp state next number mode args

def Fails (state : State) (trigger : Nat) : Prop :=
  ∃ failure, state.signalOf (.thread trigger) = .error failure

structure Resumption (first : State) (name : String) (number trigger : Nat) (mode : Mode)
    (args : List Value) (behind : List State) (visited next : State) : Prop where
  underway : Underway first name number trigger mode args behind visited
  stepped : visited.step = some next
  called : ∃ rest value, visited.active = some ⟨.thread trigger, .call (.resume name mode args)
    (threaded (first.trigger trigger).args (runsOf trigger behind)) :: rest, .ok value⟩
  takesUp : TakesUp visited next number mode (if args.isEmpty then
      threaded (first.trigger trigger).args (runsOf trigger behind) else args) ↔
    ¬ next.Fails trigger
  /-- A start that raises leaves the task running with no run ahead. -/
  stranded : ∀ failure, next.signalOf (.thread trigger) = .error failure →
    ((∃ fault, visited.now = .error fault) ∨ failure.leaves = true) ∧
      (next.entry number).isRunning = true ∧ (next.entry number).trigger = none

structure CarriesOver (first : State) (name : String) (number trigger : Nat) (mode : Mode)
    (args : List Value) (later : List State) (final : State) : Prop where
  made : ∃ behind visited next, next :: visited :: behind <:+ final :: later ∧
    Resumption first name number trigger mode args behind visited next
  once : starts number later = 1

variable {setting : Setting} {state later next first : State} {past : List State}
  {agent : Agent} {number trigger : Nat} {name : String} {mode : Mode} {args : List Value}

/-! ### Starts -/

theorem starts_cons (number : Nat) (past : List State) (state : State) :
    starts number (state :: past) = state.deeds.countP (Deed.starts number) + starts number past :=
  List.countP_append

theorem starts_eq_zero (none : .started number ∉ state.deeds) :
    state.deeds.countP (Deed.starts number) = 0 := by
  refine List.countP_eq_zero.mpr fun deed member same => none ?_
  cases deed with
  | started task =>
    obtain rfl := of_decide_eq_true same
    exact member
  | _ => cases same

theorem runsOf_cons (trigger : Nat) (past : List State) (state : State) :
    runsOf trigger (state :: past) =
      (Ledger.of trigger state.deeds).runs ++ runsOf trigger past := by
  show (Ledger.of trigger (state.deeds ++ history past)).runs = _
  rw [Ledger.of_append]
  rfl

/-! ### Errors -/

theorem errorsBeside_cons (number trigger : Nat) (past : List State) (state : State) :
    errorsBeside number trigger (state :: past) =
      (state.reported ++ state.unreported).countP (fun note =>
        decide (note.task = number ∧ note.agent ≠ .thread trigger)) +
      errorsBeside number trigger past :=
  List.countP_append

theorem Asks.started {frame : Frame} (asks : Asks state number frame mode args)
    (idle : (state.entry number).isRunning = false) (agent : Agent) (value : Value) :
    .started number ∈ state.frameDeeds agent (.ok value) frame := by
  rw [asks.deeds, startDeeds_of_idle idle]
  exact List.mem_singleton_self _

theorem startChain_takesUp (within : number < state.entries.size)
    (idle : (state.entry number).isRunning = false) (mode : Mode) (args : List Value) :
    (∃ failure, (state.startChain number mode args).2 = .fail failure ∧
        ((∃ fault, state.now = .error fault) ∨ failure.leaves = true) ∧
        (state.startChain number mode args).1.entry number = (state.entry number).begin mode) ∨
      (∃ frames, (state.startChain number mode args).2 = .go frames) ∧
        TakesUp state (state.startChain number mode args).1 number mode args := by
  obtain ⟨later, result, arming, started⟩ := startChain_begins mode args idle
  have became := arming.becomes (Nat.lt_of_lt_of_eq within (Store.size_update ..).symm)
  rw [entry_updateEntry_self within] at became
  rw [started]
  cases arming with
  | blind fault blind =>
    refine .inl ⟨_, rfl, .inl ⟨fault, blind⟩, ?_⟩
    exact entry_updateEntry_self within _
  | left unmoved leaves =>
    refine .inl ⟨_, rfl, .inr leaves, (unmoved.entry number).trans ?_⟩
    exact entry_updateEntry_self within _
  | unplanned report | unstarted report =>
    generalize same : State.entry (breakOff _ number report) number = after at became
    cases became
    exact .inr ⟨⟨_, rfl⟩, .breaksOff (by rw [begun, same]; rfl) (by rw [begun, same]; rfl)
      (by rw [begun, same]; rfl) (by rw [begun, same]; rfl)⟩
  | @armed planned spawned _ due unmoved made armed =>
    generalize same : later.entry number = after at became
    cases became
    have given : (later.trigger state.triggers.size).args = args := by
      obtain ⟨name, made⟩ := made.new
      rw [unmoved.triggers] at made
      rw [armed.trigger]
      exact congrArg Trigger.args made
    refine .inr ⟨⟨_, rfl⟩, ?_⟩
    simp only [State.begun]
    refine .waits state.triggers.size (Nat.le_refl _) ?_ ?_ ?_ ?_ ?_
    · exact stoppable?_iff.mpr ⟨by rw [same]; rfl, by rw [same]; rfl⟩
    · rw [same]; rintro ⟨⟩
    · rw [same]; rfl
    · rw [same]; exact given
    · rw [same]; rfl

theorem TakesUp.shift (takes : TakesUp state later number mode args) (shift : Shift later next) :
    TakesUp state next number mode args := by
  have entry := shift.entry number
  cases takes with
  | waits armed beyond stoppable planned same pending errors =>
    refine .waits armed beyond ((stoppable?_congr entry).trans stoppable) ?_ ?_ ?_ ?_ <;> rw [entry]
    · exact planned
    · exact same
    · rw [← pending, snapshot, snapshot]
      split <;> simp_all [shift.args]
    · exact errors
  | breaksOff idle released same errors =>
    refine .breaksOff ?_ ?_ ?_ ?_ <;> rw [entry] <;> assumption

/-- The thread that calls the callback of a restart makes the start. -/
theorem Underway.resumption {behind : List State}
    (underway : Underway first name number trigger mode args behind state) (sound : Sound state)
    (upright : Upright state) (stepped : state.step = some next)
    (calls : CallsBack number trigger (.resume name mode args)
      (threaded (first.trigger trigger).args (runsOf trigger behind))
      (state.standing number trigger)) :
    Resumption first name number trigger mode args behind state next ∧
      state.deeds.countP (Deed.starts number) = 1 := by
  obtain ⟨target, value, active⟩ := upright.callsBack calls
  have found := underway.found
  have idle := underway.idle
  have within := sound.linked.tidy.range number (find?_mem found).1
  have free : (state.entry number).trigger = none := by
    refine Option.eq_none_iff_forall_ne_some.mpr fun other holds => ?_
    exact calls.held ((underway.held other holds) ▸ holds)
  have asks := Asks.resume mode args (threaded (first.trigger trigger).args (runsOf trigger behind))
    found
  have turns := (sound.replied_step active stepped).turns
  rw [asks.answer] at turns
  refine ⟨⟨underway, stepped, ⟨_, value, active⟩, ?takesUp, ?stranded⟩, ?once⟩
  case once =>
    have deeds : state.deeds = [.started number] := by
      rw [State.deeds, active]
      exact (asks.deeds (.thread trigger) value).trans (startDeeds_of_idle idle)
    rw [deeds]
    simp [Deed.starts]
  all_goals
    rcases startChain_takesUp within idle mode (if args.isEmpty then
      threaded (first.trigger trigger).args (runsOf trigger behind) else args) with
      ⟨failure, failed, cause, same⟩ | ⟨⟨frames, going⟩, takes⟩
  case takesUp.inl =>
    have running : next.entry number = (state.entry number).begin mode :=
      (turns.toShift.entry number).trans same
    refine ⟨fun takes => ?_, fun fine => absurd ⟨failure, ?_⟩ fine⟩
    · cases takes with
      | waits armed _ stoppable =>
        rw [stoppable?_iff, running] at stoppable
        exact absurd (free.symm.trans stoppable.2) (by rintro ⟨⟩)
      | breaksOff idle => rw [running] at idle; cases idle
    · rw [turns.signal, failed]; rfl
  case takesUp.inr =>
    refine ⟨?_, fun _ => takes.shift turns.toShift⟩
    rintro - ⟨failure, failed⟩
    rw [turns.signal, going] at failed
    cases failed
  case stranded.inl =>
    have running : next.entry number = (state.entry number).begin mode :=
      (turns.toShift.entry number).trans same
    intro other raised
    rw [turns.signal, failed] at raised
    cases raised
    rw [running]
    exact ⟨cause, rfl, free⟩
  case stranded.inr =>
    intro failure failed
    rw [turns.signal, going] at failed
    cases failed

end State

namespace Trace

variable {setting : Setting} {state next : State} {past : List State}

end Trace

end Timetable
