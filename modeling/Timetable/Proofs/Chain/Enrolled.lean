import Timetable.Proofs.Chain.Sound

/-! Registered tasks.

A task keeps its name for good. It stays registered under that name until the program removes it,
and nothing else takes it from the registry.
-/

set_option autoImplicit false

namespace Timetable

namespace State

structure Enrolled (number : Nat) (state later : State) : Prop where
  size : state.entries.size ≤ later.entries.size
  name : number < state.entries.size → (later.entry number).name = (state.entry number).name
  member : number ∈ state.registered → number ∈ later.registered

variable {state middle later next : State} {agent : Agent} {number : Nat} {name : String}

namespace Enrolled

theorem of_same (entries : later.entries = state.entries)
    (registered : later.registered = state.registered) : Enrolled number state later where
  size := Nat.le_of_eq (by rw [entries])
  name _ := by rw [entry, entries]; rfl
  member member := registered ▸ member

theorem refl (number : Nat) (state : State) : Enrolled number state state :=
  of_same rfl rfl

theorem trans (first : Enrolled number state middle) (second : Enrolled number middle later) :
    Enrolled number state later where
  size := Nat.le_trans first.size second.size
  name within := (second.name (Nat.lt_of_lt_of_le within first.size)).trans (first.name within)
  member member := second.member (first.member member)

theorem of_unmoved (unmoved : Unmoved state later) : Enrolled number state later :=
  of_same unmoved.entries unmoved.registered

theorem of_shift (shift : Shift state later) : Enrolled number state later :=
  of_same shift.entries shift.registered

theorem of_local {task : Nat} (inside : Local task state later) : Enrolled number state later where
  size := Nat.le_of_eq inside.size.symm
  name _ := by
    by_cases same : number = task
    · rw [same, inside.name]
    · rw [inside.others number same]
  member member := inside.registered ▸ member

theorem updateEntry (task : Nat) {change : Entry → Entry}
    (kept : ∀ entry, (change entry).name = entry.name) :
    Enrolled number state (state.updateEntry task change) where
  size := Nat.le_of_eq (Store.size_update ..).symm
  name _ := by
    rw [entry_updateEntry]
    split
    · exact kept _
    · rfl
  member := id

theorem updateRule (state : State) (task : Nat) (rule : Rule) :
    Enrolled number state (state.updateRule task rule) := by
  have ruled : Enrolled number state (state.updateEntry task fun entry => { entry with rule }) :=
    updateEntry task fun _ => rfl
  exact ruled.trans (of_unmoved (.tell _ _ _))

theorem updateWork (state : State) (task : Nat) (work : Work) :
    Enrolled number state (state.updateWork task work) := by
  have worked : Enrolled number state (state.updateEntry task fun entry => { entry with work }) :=
    updateEntry task fun _ => rfl
  exact worked.trans (of_unmoved (.tell _ _ _))

theorem noteRun (state : State) (task : Nat) (time : DateTime) :
    Enrolled number state (state.updateEntry task fun entry => entry.noteRun time) :=
  updateEntry task fun _ => rfl

theorem commit (state : State) (trigger : Nat) (decided : Outcome) (callback : Option Work) :
    Enrolled number state (state.commit trigger decided callback).1 := by
  refine of_same (entries_commit _ _ _ _) ?_
  by_cases undecided : state.outcome trigger = none
  · rw [commit_undecided undecided]; rfl
  · rw [commit_decided undecided]

theorem startThread (state : State) (trigger : Nat) :
    Enrolled number state (state.startThread trigger).1 := by
  unfold State.startThread
  dsimp only
  split <;> exact of_same rfl rfl

theorem addTask (name : String) (rule : Rule) (work : Work) :
    Enrolled number state (state.addTask name rule work).1 := by
  unfold State.addTask
  split
  · exact of_unmoved (.tell _ _ _)
  · refine ⟨?_, fun within => ?_, List.mem_append_left _⟩
    · exact Nat.le_of_lt (Nat.lt_of_lt_of_eq (Nat.lt_succ_self _) (Store.size_add ..).symm)
    · exact congrArg Entry.name ((Store.get_add _ _ number).trans (if_neg (Nat.ne_of_lt within)))

theorem of_harmless (harmless : Harmless state later) : Enrolled number state later := by
  cases harmless with
  | aside unmoved => exact of_unmoved unmoved
  | make | label => exact of_same rfl rfl
  | startThread => exact startThread state _
  | addTask name rule => exact addTask name rule _
  | updateRule task rule => exact updateRule state task rule
  | updateWork task => exact updateWork state task _

theorem of_run (changes : HarmlessRun state later) : Enrolled number state later := by
  induction changes with
  | refl => exact refl _ _
  | tail _ harmless ih => exact ih.trans (of_harmless harmless)

theorem startChain {task : Nat} (member : task ∈ state.registered) (mode : Mode)
    (args : List Value) : Enrolled number state (state.startChain task mode args).1 := by
  cases running : (state.entry task).isRunning with
  | true =>
    unfold State.startChain
    rw [if_pos running]
    exact refl _ _
  | false => exact of_local (startChain_local mode args member running)

theorem startNamed (name : String) (mode : Mode) (args : List Value) :
    Enrolled number state (state.startNamed name mode args).1 := by
  unfold State.startNamed
  cases found : state.find? name with
  | none => exact of_unmoved (.tell _ _ _)
  | some task => exact startChain (find?_mem found).1 mode args

theorem stopChain (task : Nat) (callback : Work) :
    Enrolled number state (state.stopChain task callback).1 := by
  cases stoppable : state.stoppable? task with
  | none =>
    rw [stopChain_none stoppable]
    exact refl _ _
  | some trigger =>
    obtain ⟨running, held⟩ := stoppable?_some stoppable
    rw [stopChain_eq running held]
    have stopped : Enrolled number state
        (state.updateEntry task fun entry => entry.stop trigger callback) :=
      updateEntry task fun _ => rfl
    exact (stopped.trans (commit _ _ _ _)).trans (of_unmoved (.tell _ _ _))

theorem stopNamed (callback : Work) (names : List String) :
    Enrolled number state (state.stopNamed callback names).1 := by
  induction names generalizing state with
  | nil => exact refl _ _
  | cons name rest ih =>
    unfold State.stopNamed
    cases state.find? name with
    | none => exact ih
    | some task => exact (stopChain task callback).trans ih

theorem removeTask (spared : (state.entry number).name = name → (state.removeTask name).2 = false) :
    Enrolled number state (state.removeTask name).1 := by
  unfold State.removeTask at spared ⊢
  split
  · exact refl _ _
  · next task found =>
    split
    · exact of_unmoved (.tell _ _ _)
    · next idle =>
      refine ⟨Nat.le_refl _, fun _ => rfl, fun member => List.mem_filter.mpr ⟨member, ?_⟩⟩
      apply decide_eq_true
      rintro rfl
      have removed := spared (find?_mem found).2
      simp only [found, if_neg idle] at removed
      cases removed

theorem stopGiven (callback : Option Callable) (names : List String) :
    Enrolled number state
      ((state.callbackOf callback).1.stopNamed (state.callbackOf callback).2 names).1 :=
  (of_run (callbackOf_harmless callback)).trans (stopNamed _ names)

/-- Of what the program can ask for, only the removal of a task takes it from the registry. -/
theorem perform (tidy : state.Tidy) (operation : Operation)
    (spared : ∀ name, operation = .remove name → (state.entry number).name = name →
      (state.removeTask name).2 = false) :
    Enrolled number state (state.perform agent operation).1 := by
  have performed := state.perform_performed tidy agent operation
  generalize state.perform agent operation = result at performed ⊢
  cases performed with
  | harmless _ tame => exact of_run tame.changes
  | unknown => exact refl _ _
  | cancels => exact commit _ _ _ _
  | redirects id fn => exact (of_harmless (handOver_harmless state fn)).trans (commit _ _ _ _)
  | removes name => exact removeTask (spared name rfl)
  | starts name mode args => exact startNamed name mode args
  | restartsNone => exact refl _ _
  | restartsNow _ _ found => exact startChain (find?_mem found).1 _ _
  | restartsLater => exact stopChain _ _
  | stopsOne name callback => exact stopGiven callback [name]
  | stopsAll callback => exact stopGiven callback _
  | shutsDown callback => exact stopGiven callback _

theorem complain (state : State) (trigger : Nat) (target : Work) (stage : String)
    (failure : Failure) :
    Enrolled number state (state.complain trigger target stage failure).1 := by
  rcases state.complain_state trigger target stage failure with unmoved | ⟨task, report, same⟩
  · exact of_unmoved unmoved
  · rw [same]
    exact of_local (abandonChain_local state task trigger report)

end Enrolled

end State

end Timetable
