import Timetable.Daemon
import Timetable.Proofs.Chain.Final
import Timetable.Proofs.Chain.Planned
import Timetable.Proofs.Chain.Refused
import Timetable.Proofs.Chain.Settlement
import Timetable.Proofs.Daemon.Passive

/-! The stops at the end of a daemon.

Each selected task is stopped under its own name, and then a shutdown stops all tasks. A task that
was stopped once does not run, so the shutdown finds none to stop. What the shutdown then waits for
asks nothing of tasks, so no stop follows.
-/

set_option autoImplicit false

namespace Timetable

namespace State

variable {state later : State} {number trigger : Nat} {deeds : List Deed} {names : List String}

theorem Linked.owner_of_stoppable (linked : Linked state)
    (found : state.stoppable? number = some trigger) : state.owner trigger = some number :=
  ((linked.tasks number).held trigger (stoppable?_some found).2).1

theorem stopDeeds_nothing (callback : Work)
    (absent : ∀ name ∈ names, ∀ number, state.find? name = some number →
      state.stoppable? number = none) : state.stopDeeds callback names = [] := by
  induction names with
  | nil => rfl
  | cons name rest ih =>
    have further := ih fun other member => absent other (List.mem_cons_of_mem _ member)
    unfold stopDeeds
    cases found : state.find? name with
    | none => exact further
    | some number =>
      dsimp only
      have idle := absent name List.mem_cons_self number found
      rw [idle, stopChain_none idle, further]
      rfl

theorem stopNamed_named (callback : Work) {name : String} (found : state.find? name = some number) :
    (state.stopNamed callback [name]).1 = (state.stopChain number callback).1 := by
  unfold stopNamed
  rw [found]
  rfl

theorem find?_stopNamed (linked : Linked state) (callback : Work) (first name : String) :
    (state.stopNamed callback [first]).1.find? name = state.find? name := by
  cases found : state.find? first with
  | none =>
    unfold stopNamed
    rw [found]
    rfl
  | some number =>
    rw [stopNamed_named callback found]
    cases armed : state.stoppable? number with
    | none => rw [stopChain_none armed]
    | some trigger =>
      obtain ⟨running, held⟩ := stoppable?_some armed
      exact (stopChain_local running held (linked.owner_of_stoppable armed) callback).find? name

theorem stoppable?_stopNamed (linked : Linked state) {callback : Work} {name : String}
    (found : state.find? name = some number) :
    (state.stopNamed callback [name]).1.stoppable? number = none := by
  rw [stopNamed_named callback found]
  cases armed : state.stoppable? number with
  | none => rw [stopChain_none armed, armed]
  | some trigger =>
    obtain ⟨running, held⟩ := stoppable?_some armed
    have within := linked.range trigger number (linked.owner_of_stoppable armed)
    rw [State.stoppable?, entry_stopChain running held within callback]
    rfl

theorem stoppable?_stopNamed_other (linked : Linked state) (callback : Work) {name : String}
    (other : state.find? name ≠ some number) :
    (state.stopNamed callback [name]).1.stoppable? number = state.stoppable? number := by
  cases found : state.find? name with
  | none =>
    unfold stopNamed
    rw [found]
    rfl
  | some task =>
    rw [stopNamed_named callback found]
    cases armed : state.stoppable? task with
    | none => rw [stopChain_none armed]
    | some held =>
      obtain ⟨running, holds⟩ := stoppable?_some armed
      have inside := stopChain_local running holds (linked.owner_of_stoppable armed) callback
      refine stoppable?_congr (inside.others number fun same => other ?_)
      rw [found, same]

theorem Sound.effect {deeds : List Deed} (sound : Sound state)
    (effect : Effect state deeds later) : Sound later where
  linked := sound.linked.effect effect
  awake := (effect.grows sound.linked).awake sound.awake
  fits agent frame member := by
    have grows := effect.grows sound.linked
    rcases grows.stackOf_or agent with same | ⟨trigger, rfl, begun⟩
    · exact grows.fits (sound.fits agent frame (same ▸ member))
    · rw [begun] at member
      rw [List.mem_singleton.mp member]
      rfl

/-- A stop whose callback is passive leaves nothing that asks something of tasks. -/
theorem Passive.stopNamed (passive : Passive state) (linked : Linked state) {callback : Work}
    (mild : callback.isPassive = true) (name : String) :
    Passive (state.stopNamed callback [name]).1 := by
  cases found : state.find? name with
  | none =>
    unfold State.stopNamed
    rw [found]
    exact passive
  | some number =>
    rw [stopNamed_named callback found]
    cases armed : state.stoppable? number with
    | none =>
      rw [stopChain_none armed]
      exact passive
    | some trigger =>
      obtain ⟨running, held⟩ := stoppable?_some armed
      have inside := stopChain_local running held (linked.owner_of_stoppable armed) callback
      refine passive.within inside (fun task other issued pending => ?_)
        (inside.grows.frames_passive passive.frames)
      rcases (@Keeps.stopChain _ _ _ .main callback running held).pending task other with
        same | ⟨own, -⟩ | ⟨work, given, stopped⟩
      · exact passive.callbacks task other issued (same ▸ pending)
      · cases own
      · cases List.mem_singleton.mp stopped
        cases given.symm.trans pending
        exact mild

end State

namespace Daemon

variable {state : State} {selected : List ConfiguredTask} {task : ConfiguredTask}
  {number trigger : Nat}

def stopEachDeeds (state : State) : List ConfiguredTask → List Deed
  | [] => []
  | task :: rest => state.stopDeeds (.logPending task.name) [task.name] ++
      stopEachDeeds (state.stopNamed (.logPending task.name) [task.name]).1 rest

def shutting (state : State) (selected : List ConfiguredTask) : State :=
  (stopEach state selected).issue (.shutdown none (some Operation.shutdownTimeout))

theorem stopEach_effect (state : State) (selected : List ConfiguredTask) :
    State.Effect state (stopEachDeeds state selected) (stopEach state selected) := by
  induction selected generalizing state with
  | nil => exact .neutral (.refl _)
  | cons task rest ih => exact (State.stopNamed_effect rfl [task.name]).trans (ih _)

theorem stopEachDeeds_unstarted (state : State) (selected : List ConfiguredTask)
    (number : Nat) : .started number ∉ stopEachDeeds state selected := by
  induction selected generalizing state with
  | nil => exact List.not_mem_nil
  | cons task rest ih =>
    intro member
    rcases List.mem_append.mp member with member | member
    · exact State.not_mem_stopDeeds _ _ member
    · exact ih _ member

theorem stoppable?_stopEach (linked : state.Linked) (member : task ∈ selected)
    (found : state.find? task.name = some number) :
    (stopEach state selected).stoppable? number = none := by
  induction selected generalizing state with
  | nil => cases member
  | cons first rest ih =>
    have later := linked.effect (@State.stopNamed_effect state (.logPending first.name) rfl
      [first.name])
    rcases List.mem_cons.mp member with rfl | member
    · refine Option.eq_none_iff_forall_ne_some.mpr fun trigger armed => ?_
      have before := ((stopEach_effect _ rest).stoppable later
        (stopEachDeeds_unstarted _ rest)).2 number trigger armed
      rw [State.stoppable?_stopNamed linked found] at before
      cases before
    · exact ih later member ((State.find?_stopNamed linked _ _ _).trans found)

/-! ### The shutdown -/

theorem idle_stopEach (linked : state.Linked)
    (covered : ∀ number trigger, state.stoppable? number = some trigger →
      ∃ task ∈ selected, state.find? task.name = some number) (number : Nat) :
    (stopEach state selected).stoppable? number = none := by
  refine Option.eq_none_iff_forall_ne_some.mpr fun trigger armed => ?_
  have before := ((stopEach_effect state selected).stoppable linked
    (stopEachDeeds_unstarted state selected)).2 number trigger armed
  obtain ⟨task, among, named⟩ := covered number trigger before
  have stopped := stoppable?_stopEach linked among named
  exact absurd (stopped.symm.trans armed) (by rintro ⟨⟩)

theorem stopEach_passive (passive : state.Passive) (linked : state.Linked) :
    (stopEach state selected).Passive := by
  induction selected generalizing state with
  | nil => exact passive
  | cons task rest ih =>
    exact ih (passive.stopNamed linked rfl task.name)
      (linked.effect (State.stopNamed_effect rfl [task.name]))

/-- A shutdown that finds nothing to stop goes on to join the threads of triggers. -/
theorem shutting_step (idle : ∀ number, (stopEach state selected).stoppable? number = none) :
    ∃ triggers, (shutting state selected).step = some ((stopEach state selected).activateMain
      [.joining triggers (some Operation.shutdownTimeout) 0]) := by
  have nothing := @State.stopNamed_nothing (shutting state selected) (shutting state selected).names
    .nothing fun _ _ number _ => idle number
  have answered : ∃ triggers, (shutting state selected).shutdown .nothing
      (some Operation.shutdownTimeout) = (shutting state selected,
        .go [.joining triggers (some Operation.shutdownTimeout) 0]) := by
    unfold State.shutdown
    dsimp only
    rw [nothing]
    exact ⟨_, rfl⟩
  obtain ⟨triggers, answered⟩ := answered
  have stepped : (shutting state selected).step = some (((shutting state selected).shutdown .nothing
      (some Operation.shutdownTimeout)).1.make .main [] ((shutting state selected).shutdown .nothing
        (some Operation.shutdownTimeout)).2) := rfl
  rw [answered] at stepped
  exact ⟨triggers, stepped⟩

/-- However long the shutdown has been under way, its next step stops nothing. -/
theorem not_stopped_mem_shutting (sound : state.Sound) (passive : state.Passive)
    (finished : state.mainHasFinished = true)
    (idle : ∀ number, (stopEach state selected).stoppable? number = none) (steps : Nat)
    (number trigger : Nat) (callback : Work) : .stopped number trigger callback ∉
      ((shutting state selected).runUntil State.mainHasFinished steps).deeds := by
  have effect := stopEach_effect state selected
  have grows := effect.grows sound.linked
  have closed : (stopEach state selected).mainHasFinished = true := by
    rw [← finished, State.mainHasFinished, State.mainHasFinished, grows.active, grows.main]
  obtain ⟨triggers, stepped⟩ := shutting_step idle
  cases steps with
  | zero =>
    have nothing : (shutting state selected).deeds = [] :=
      State.stopDeeds_nothing .nothing fun _ _ number _ => idle number
    rw [State.runUntil, nothing]
    exact List.not_mem_nil
  | succ steps =>
    have joins : ((stopEach state selected).activateMain
        [.joining triggers (some Operation.shutdownTimeout) 0]).Passive := by
      refine (stopEach_passive passive sound.linked).turns
        (State.activateMain_turns (State.mainHasFinished_idle closed) _) ?_
      exact List.forall_mem_singleton.mpr rfl
    rw [State.runUntil, if_neg (by rintro ⟨⟩), stepped]
    exact (joins.runUntil (((sound.effect effect).issue closed _).step stepped) _
      steps).not_stopped_mem_deeds callback

/-! ### Stops of tasks that run -/

/-- The callback of a task is registered once at the end of a daemon: the stop of the task does it,
and no step of the shutdown stops anything again. The stops are those that lead to the state in which
the shutdown begins. -/
structure StopsOnce (state : State) (selected : List ConfiguredTask) (name : String)
    (number trigger : Nat) : Prop where
  held : state.stoppable? number = some trigger
  unstopped : (state.entry number).stopCallback? trigger = none
  stops : state.Effect (stopEachDeeds state selected) (stopEach state selected)
  once : (stopEachDeeds state selected).filterMap (Deed.stopOf trigger) =
    [(number, .logPending name)]
  registered : ((stopEach state selected).entry number).stopCallback? trigger =
    some (.logPending name)
  shutdown : ∀ steps task other callback, .stopped task other callback ∉
    ((shutting state selected).runUntil State.mainHasFinished steps).deeds
  cleans : cleanUp state selected =
    (shutting state selected).runUntil State.mainHasFinished State.patience

/-- The end of a daemon finds nothing to stop. -/
structure StopsNothing (state : State) (selected : List ConfiguredTask) : Prop where
  tasks : ∀ task ∈ selected, state.stopNamed (.logPending task.name) [task.name] = (state, 0)
  each : stopEach state selected = state
  shutdown : state.stopNamed .nothing state.names = (state, 0)
  cleans : cleanUp state selected = state.complete (.shutdown none (some Operation.shutdownTimeout))

/-- A selected task that can be stopped is stopped under its own name. -/
theorem stopped_mem (linked : state.Linked) (member : task ∈ selected)
    (found : state.find? task.name = some number)
    (held : state.stoppable? number = some trigger) :
    .stopped number trigger (.logPending task.name) ∈ stopEachDeeds state selected := by
  induction selected generalizing state with
  | nil => cases member
  | cons first rest ih =>
    have later := linked.effect (@State.stopNamed_effect state (.logPending first.name) rfl
      [first.name])
    by_cases own : state.find? first.name = some number
    · refine List.mem_append_left _ ?_
      rw [(State.find?_mem found).2.symm.trans (State.find?_mem own).2]
      unfold State.stopDeeds
      rw [own]
      dsimp only
      rw [held]
      exact List.mem_cons_self
    · have others : task ∈ rest := by
        refine (List.mem_cons.mp member).resolve_left ?_
        rintro rfl
        exact own found
      exact List.mem_append_right _ (ih later others
        ((State.find?_stopNamed linked _ _ _).trans found)
        ((State.stoppable?_stopNamed_other linked _ own).trans held))

theorem stopsOnce (sound : state.Sound) (passive : state.Passive)
    (finished : state.mainHasFinished = true)
    (covered : ∀ number trigger, state.stoppable? number = some trigger →
      ∃ task ∈ selected, state.find? task.name = some number)
    (member : task ∈ selected) (found : state.find? task.name = some number)
    (held : state.stoppable? number = some trigger)
    (unstopped : (state.entry number).stopCallback? trigger = none) :
    StopsOnce state selected task.name number trigger := by
  have linked := sound.linked
  have issued := stopped_mem linked member found held
  have shut := not_stopped_mem_shutting sound passive finished (idle_stopEach linked covered)
  have effect := stopEach_effect state selected
  cases effect.stops linked (stopEachDeeds_unstarted state selected)
      (linked.owner_of_stoppable held) with
  | none unconcerned => exact absurd issued (State.not_mem_of_stopOf unconcerned)
  | once callback once _ _ registered =>
    have noted := Ledger.mem_stops.mpr issued
    rw [show (Ledger.of trigger (stopEachDeeds state selected)).stops = _ from once] at noted
    cases List.mem_singleton.mp noted
    exact ⟨held, unstopped, effect, once, registered, shut, rfl⟩

theorem stopEach_idle (idle : ∀ number, state.stoppable? number = none)
    (selected : List ConfiguredTask) : stopEach state selected = state := by
  induction selected with
  | nil => rfl
  | cons task rest ih =>
    unfold stopEach
    rw [State.stopNamed_nothing _ fun _ _ number _ => idle number]
    exact ih

theorem stopsNothing (idle : ∀ number, state.stoppable? number = none)
    (selected : List ConfiguredTask) : StopsNothing state selected where
  tasks task _ := State.stopNamed_nothing _ fun _ _ number _ => idle number
  each := stopEach_idle idle selected
  shutdown := State.stopNamed_nothing _ fun _ _ number _ => idle number
  cleans := by rw [cleanUp, stopEach_idle idle]

end Daemon

end Timetable
