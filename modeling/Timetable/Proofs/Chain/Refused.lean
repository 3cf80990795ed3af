import Timetable.Proofs.Chain.Threaded

/-! Operations on the registry that are refused.

A refused operation changes nothing but the log, and a refused start nothing but the task. The start
of an idle task for which no run can be planned, or no thread be started, leaves the task idle with
one error more. A start that raises leaves it as it has begun: the task counts as running, though it
has no trigger to run it.
-/

set_option autoImplicit false

namespace Timetable

def Operation.isRequest : Operation → Bool
  | .add .. | .remove _ | .updateRule .. | .updateFn .. | .start .. | .restart .. | .stop .. => true
  | _ => false

def Operation.needs? : Operation → Option String
  | .remove name | .updateRule name _ | .updateFn name _ | .start name _ _ | .restart name _ =>
    some name
  | _ => none

def stopConcerns (named : Option String) (name : String) : Bool :=
  named.all fun given => decide (given = name)

namespace State

/-- `Declines state operation signal`: an operation is refused with a signal. -/
inductive Declines (state : State) : Operation → Signal → Prop where
  | unknown {operation : Operation} {name : String} : operation.needs? = some name →
      state.find? name = none → Declines state operation (.ok (.bool false))
  /-- The rule of a task that is added is read before its name is looked up. -/
  | unread {name : String} {rule : Value} {error : ScheduleError} (fn : Callable) :
      Rule.ofLoose rule (name ++ ".rule") = .error error →
      Declines state (.add name rule fn) (.error error.failure)
  | uncallable {name : String} {rule : Value} {parsed : Rule} (value : Value) :
      Rule.ofLoose rule (name ++ ".rule") = .ok parsed →
      Declines state (.add name rule (.plain value)) (.error (notCallable name (.plain value)))
  | known {name : String} {rule : Value} {parsed : Rule} {fn : Callable} {number : Nat} :
      Rule.ofLoose rule (name ++ ".rule") = .ok parsed → (state.handOver fn).2.canBeCalled = true →
      state.find? name = some number → Declines state (.add name rule fn) (.ok (.bool false))
  | unreadUpdate {name : String} {rule : Value} {error : ScheduleError} {number : Nat} :
      state.find? name = some number → Rule.ofLoose rule (name ++ ".rule") = .error error →
      Declines state (.updateRule name rule) (.error error.failure)
  | uncallableUpdate {name : String} {number : Nat} (value : Value) :
      state.find? name = some number →
      Declines state (.updateFn name (.plain value)) (.error (notCallable name (.plain value)))
  | removeRunning {name : String} {number : Nat} : state.find? name = some number →
      (state.entry number).isRunning = true → Declines state (.remove name) (.ok (.bool false))
  | startRunning {operation : Operation} {number : Nat} {mode : Mode} {args : List Value} :
      Asks state number (.perform operation) mode args → (state.entry number).isRunning = true →
      Declines state operation (.ok (.bool false))
  | nothingToStop {named : Option String} (callback : Option Callable) :
      (∀ number ∈ state.registered, stopConcerns named (state.entry number).name = true →
        state.stoppable? number = none) → Declines state (.stop named callback) (.ok (.int 0))

/-- `SparesOthers number state later`: nothing has become of the registry, of other tasks and of threads. -/
structure SparesOthers (number : Nat) (state later : State) : Prop where
  registered : later.registered = state.registered
  size : later.entries.size = state.entries.size
  others : ∀ other, other ≠ number → later.entry other = state.entry other
  made : state.triggers.size ≤ later.triggers.size
  triggers : ∀ trigger < state.triggers.size, later.trigger trigger = state.trigger trigger
  threads : ∀ trigger, (later.trigger trigger).thread = (state.trigger trigger).thread

variable {state middle later next : State} {agent : Agent} {rest : List Frame}
  {operation : Operation} {signal : Signal} {number : Nat} {mode : Mode} {args : List Value}

/-! ### Refusals -/

theorem callbackOf_eq (state : State) (callback : Option Callable) :
    ∃ turns, (state.callbackOf callback).1 = { state with turns } := by
  rcases callback with _ | _ | _ | _ <;> exact ⟨_, rfl⟩

theorem stopNamed_nothing {names : List String} (callback : Work)
    (absent : ∀ name ∈ names, ∀ number, state.find? name = some number →
      state.stoppable? number = none) : state.stopNamed callback names = (state, 0) := by
  induction names with
  | nil => rfl
  | cons name rest ih =>
    have further := ih fun other member => absent other (List.mem_cons_of_mem _ member)
    unfold stopNamed
    cases found : state.find? name with
    | none => exact further
    | some number =>
      dsimp only
      rw [stopChain_none (absent name List.mem_cons_self number found)]
      simp [further]

/-- A refused operation answers at once, and nothing becomes of the state. -/
theorem Declines.answer (declines : Declines state operation signal) (agent : Agent)
    (value : Value) : ∃ log turns, state.answer agent (.ok value) (.perform operation) =
      ({ state with log, turns }, .resume [] signal) := by
  cases declines with
  | @unknown _ name needs absent =>
    cases operation with
    | remove | updateRule | updateFn | start | restart =>
      obtain rfl := Option.some.inj needs
      simp only [State.answer, resume, perform, removeTask, onTask, startNamed, absent, giveFlag]
      exact ⟨_, _, rfl⟩
    | _ => cases needs
  | unread fn unread =>
    simp only [State.answer, resume, perform, unread]
    exact ⟨_, _, rfl⟩
  | uncallable value read =>
    simp only [State.answer, resume, perform, read]
    exact ⟨_, _, rfl⟩
  | @known name rule parsed fn number read callable found =>
    have same : (state.handOver fn).1.find? name = some number := by cases fn <;> exact found
    simp only [State.answer, resume, perform, read, callable, if_true, addTask, same, giveFlag]
    cases fn <;> exact ⟨_, _, rfl⟩
  | unreadUpdate found unread =>
    simp only [State.answer, resume, perform, onTask, found, unread]
    exact ⟨_, _, rfl⟩
  | uncallableUpdate value found =>
    simp only [State.answer, resume, perform, onTask, found]
    exact ⟨_, _, rfl⟩
  | removeRunning found running =>
    simp only [State.answer, resume, perform, removeTask, found, running, if_true, giveFlag]
    exact ⟨_, _, rfl⟩
  | startRunning asks running =>
    rw [asks.answer, startChain_of_running running]
    exact ⟨_, _, rfl⟩
  | @nothingToStop named callback absent =>
    obtain ⟨turns, handed⟩ := state.callbackOf_eq callback
    have none (names : List String) (concerns : ∀ name ∈ names, stopConcerns named name = true) :
        (state.callbackOf callback).1.stopNamed (state.callbackOf callback).2 names =
          ((state.callbackOf callback).1, 0) := by
      refine stopNamed_nothing _ fun name member number found => ?_
      rw [handed] at found ⊢
      obtain ⟨registered, rfl⟩ := find?_mem found
      exact absent number registered (concerns _ member)
    cases named with
    | some name =>
      simp only [State.answer, resume, perform,
        none [name] (by simp [stopConcerns])]
      rw [handed]
      exact ⟨_, _, rfl⟩
    | none =>
      simp only [State.answer, resume, perform, none _ fun _ _ => rfl]
      rw [handed]
      exact ⟨_, _, rfl⟩

theorem Tidy.find?_of_mem (tidy : state.Tidy) (member : number ∈ state.registered) :
    state.find? (state.entry number).name = some number := by
  cases found : state.find? (state.entry number).name with
  | none => exact absurd rfl (find?_none found member)
  | some other =>
    obtain ⟨registered, same⟩ := find?_mem found
    rw [tidy.unique other registered number member same]

namespace SparesOthers

theorem trans (first : SparesOthers number state middle)
    (second : SparesOthers number middle later) : SparesOthers number state later where
  registered := second.registered.trans first.registered
  size := second.size.trans first.size
  others other different := (second.others other different).trans (first.others other different)
  made := Nat.le_trans first.made second.made
  triggers trigger within := (second.triggers trigger (Nat.lt_of_lt_of_le within first.made)).trans
    (first.triggers trigger within)
  threads trigger := (second.threads trigger).trans (first.threads trigger)

theorem updateEntry (state : State) (number : Nat) (change : Entry → Entry) :
    SparesOthers number state (state.updateEntry number change) where
  registered := rfl
  size := Store.size_update ..
  others other different := by rw [entry_updateEntry, if_neg fun both => different both.1]
  made := Nat.le_refl _
  triggers _ _ := rfl
  threads _ := rfl

theorem of_unmoved (unmoved : Unmoved state later) : SparesOthers number state later where
  registered := unmoved.registered
  size := by rw [unmoved.entries]
  others other _ := unmoved.entry other
  made := Nat.le_of_eq (by rw [unmoved.triggers])
  triggers trigger _ := unmoved.trigger trigger
  threads trigger := by rw [unmoved.trigger]

end SparesOthers

end State

namespace Trace

variable {setting : Setting} {state next : State} {past : List State} {agent : Agent}
  {frame : Frame} {rest : List Frame} {value : Value}

end Trace

end Timetable
