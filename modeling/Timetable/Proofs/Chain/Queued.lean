import Timetable.Proofs.Chain.Rearmed

/-! Threads that can go on, and threads that wait.

What happens to triggers and tasks takes no thread out of the queue. A thread that waits goes on waiting,
or comes into the queue, and so does a thread that is started.
-/

set_option autoImplicit false

namespace Timetable

namespace State

/-- No thread is lost: those that can go on still can, those that wait still do or can go on, and those
that are started can go on. -/
structure Queues (state later : State) : Prop where
  ready : ∀ trigger ∈ state.ready, trigger ∈ later.ready
  waiting : ∀ waiter ∈ state.waiting, waiter ∈ later.waiting ∨ waiter.thread ∈ later.ready
  started : ∀ trigger, later.isStarted trigger = true →
    state.isStarted trigger = true ∨ trigger ∈ later.ready

variable {state middle later : State} {number trigger : Nat}

theorem isStarted_updateTrigger {change : Trigger → Trigger}
    (kept : trigger = number →
      (change (state.trigger trigger)).thread = (state.trigger trigger).thread) :
    (state.updateTrigger number change).isStarted trigger = state.isStarted trigger := by
  have same : ((state.updateTrigger number change).trigger trigger).thread =
      (state.trigger trigger).thread := by
    rw [trigger_updateTrigger]
    split
    · next own => exact kept own.1
    · rfl
  rw [isStarted, same]
  rfl

namespace Queues

theorem trans (first : Queues state middle) (second : Queues middle later) :
    Queues state later where
  ready trigger member := second.ready trigger (first.ready trigger member)
  waiting waiter member := by
    rcases first.waiting waiter member with member | member
    · exact second.waiting waiter member
    · exact .inr (second.ready _ member)
  started trigger begun := by
    rcases second.started trigger begun with begun | member
    · exact (first.started trigger begun).imp_right (second.ready trigger)
    · exact .inr member

theorem of_same (ready : later.ready = state.ready) (waiting : later.waiting = state.waiting)
    (started : ∀ trigger, later.isStarted trigger = state.isStarted trigger) :
    Queues state later where
  ready _ member := ready ▸ member
  waiting _ member := .inl (waiting ▸ member)
  started trigger begun := .inl (started trigger ▸ begun)

theorem refl (state : State) : Queues state state :=
  of_same rfl rfl fun _ => rfl

theorem updateEntry (state : State) (number : Nat) (change : Entry → Entry) :
    Queues state (state.updateEntry number change) :=
  of_same rfl rfl fun _ => rfl

theorem wake (state : State) (pause : Pause) : Queues state (state.wake pause) := by
  unfold State.wake
  rw [List.partition_eq_filter_filter]
  refine ⟨fun _ member => List.mem_append_left _ member, fun waiter member => ?_, fun _ => .inl⟩
  by_cases woken : waiter.pause = pause
  · refine .inr (List.mem_append_right _ (List.mem_map_of_mem ?_))
    exact List.mem_filter.mpr ⟨member, decide_eq_true woken⟩
  · exact .inl (List.mem_filter.mpr ⟨member, by simpa using woken⟩)

theorem commit (state : State) (trigger : Nat) (outcome : Outcome) (callback : Option Work) :
    Queues state (state.commit trigger outcome callback).1 := by
  rcases state.commit_decision trigger outcome callback with ⟨-, same, -⟩ | ⟨-, same, -⟩
  · rw [same]; exact refl _
  · rw [same]
    have decided : Queues state (state.updateTrigger trigger fun committed =>
        { committed with decision := ⟨some outcome, callback⟩ }) :=
      of_same rfl rfl fun _ => isStarted_updateTrigger fun _ => rfl
    exact decided.trans (wake _ _)

theorem makeTrigger (state : State) (due : Option DateTime) (work : Work) (args : List Value)
    (errors : ErrorTarget) (name : String) :
    Queues state (state.makeTrigger due work args errors name) := by
  obtain ⟨given, made⟩ := state.trigger_makeTrigger due work args errors name
  refine of_same rfl rfl fun other => ?_
  have same : ((state.makeTrigger due work args errors name).trigger other).thread =
      (state.trigger other).thread := by
    rw [made]
    split
    · next new => rw [new, state.trigger_of_le (Nat.le_refl _)]; rfl
    · rfl
  rw [isStarted, same]
  rfl

theorem startThread (state : State) (trigger : Nat) :
    Queues state (state.startThread trigger).1 := by
  have begun : Queues state
      (state.updateTrigger trigger fun trigger => { trigger with begun := true }) :=
    of_same rfl rfl fun _ => isStarted_updateTrigger fun _ => rfl
  unfold State.startThread
  dsimp only
  split
  · exact begun.trans (of_same rfl rfl fun _ => rfl)
  · refine begun.trans ⟨fun _ member => List.mem_append_left _ member, fun _ => .inl,
      fun other started => ?_⟩
    by_cases own : other = trigger
    · exact .inr (List.mem_append_right _ (List.mem_singleton.mpr own))
    · exact .inl ((isStarted_updateTrigger fun same => absurd same own).symm.trans started)
  · exact begun

theorem breakOff (state : State) (number : Nat) (report : Report) :
    Queues state (state.breakOff number report) :=
  updateEntry _ _ _

theorem armFor (state : State) (number : Nat) (args : List Value) (due : DateTime) :
    Queues state (state.armFor number args due).1 := by
  have begun := (makeTrigger state (some due) (.fire number state.triggers.size) args
    (.entry number) (state.entry number).name).trans (startThread _ state.triggers.size)
  unfold State.armFor
  dsimp only
  generalize (state.makeTrigger (some due) (.fire number state.triggers.size) args (.entry number)
    (state.entry number).name).startThread state.triggers.size = result at begun ⊢
  obtain ⟨spawned, failure | done⟩ := result
  · exact begun.trans (breakOff _ _ _)
  · exact begun.trans (of_same rfl rfl fun _ => rfl)

theorem plan (state : State) (rule : Rule) (after : DateTime) :
    Queues state (state.plan rule after).1 := by
  unfold State.plan
  split
  · exact refl _
  · exact of_same rfl rfl fun _ => rfl

theorem arm (state : State) (number : Nat) (args : List Value) (after : Option DateTime) :
    Queues state (state.arm number args after).1 := by
  unfold State.arm
  split
  · exact refl _
  · dsimp only
    cases planFrom _ after with
    | error fault =>
      dsimp only
      rw [Fault.failure_leaves, if_neg (by rintro ⟨⟩)]
      exact breakOff _ _ _
    | ok time =>
      have planned := plan state (state.entry number).rule time
      dsimp only
      generalize state.plan (state.entry number).rule time = planning at planned
      obtain ⟨sought, failure | (_ | due)⟩ := planning
      · dsimp only
        split
        · exact planned
        · exact planned.trans (breakOff _ _ _)
      · exact planned.trans (breakOff _ _ _)
      · exact planned.trans (armFor _ _ _ _)

theorem startChain (state : State) (number : Nat) (mode : Mode) (args : List Value) :
    Queues state (state.startChain number mode args).1 := by
  have armed := (updateEntry state number fun entry => entry.begin mode).trans
    (arm _ number args none)
  unfold State.startChain
  split
  · exact refl _
  · dsimp only
    generalize (state.updateEntry number fun entry => entry.begin mode).arm number args none =
      result at armed ⊢
    obtain ⟨later, failure | report⟩ := result <;> exact armed

theorem noted (noted : Noted number state later) : Queues state later := by
  rcases noted with rfl | ⟨report, rfl⟩
  · exact refl _
  · exact updateEntry _ _ _

theorem endRun (state : State) (number trigger : Nat) (args : List Value) (mode : Mode)
    (work : Work) (outcome : Signal) :
    Queues state (state.endRun number trigger args mode work outcome).1 := by
  obtain ⟨counted, noted, ⟨same, -⟩ | ⟨same, -⟩⟩ :=
    state.endRun_cases number trigger args mode work outcome
  · rw [same]; exact (Queues.noted noted).trans (arm _ _ _ _)
  · rw [same]; exact (Queues.noted noted).trans (updateEntry _ _ _)

theorem complain (owned : state.owner trigger = some number) (target : Work) (stage : String)
    (failure : Failure) : Queues state (state.complain trigger target stage failure).1 := by
  obtain ⟨report, text, -, same⟩ := complain_owned owned target stage failure
  rw [same]
  unfold abandonChain
  dsimp only
  refine Queues.trans ?_ (updateEntry _ _ _)
  split <;> exact updateEntry _ _ _

end Queues

end State

end Timetable
