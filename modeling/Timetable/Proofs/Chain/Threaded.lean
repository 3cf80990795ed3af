import Timetable.Proofs.Chain.Firing
import Timetable.Proofs.Chain.Retained

/-! What the runs of a chain are called with.

A chain is the line of triggers that are armed one after the other upon a start. The run of a trigger is
called with the arguments of the trigger: those of the start, and from run to run what the mode makes of
the run before. A run takes its mode from the task where it begins. That is the mode of its chain, unless
a start that raises leaves the task in another mode while it holds a trigger of the chain.
-/

set_option autoImplicit false

namespace Timetable

namespace State

/-- The arguments of a run, after runs that were begun in the given modes, the latest first. -/
def threaded (args : List Value) : List (Mode × Signal) → List Value
  | [] => args
  | (mode, outcome) :: earlier => nextArgs mode (threaded args earlier) outcome

/-- `Course setting number mode args first past state runs trigger`: a session has come to `state` by
way of the states `past`, and in it a chain of a task, which was started in a mode and with arguments and
then armed with the trigger `first`, has come by way of `runs`, the latest first, to be armed with
`trigger`. -/
inductive Course (setting : Setting) (number : Nat) (mode : Mode) (args : List Value) (first : Nat) :
    List State → State → List (Mode × Signal) → Nat → Prop where
  | begins {past : List State} {state next : State} :
      Trace (.initial setting) past state → state.step = some next →
      Begins state next number mode args first →
      Course setting number mode args first (state :: past) next [] first
  | goesOn {past : List State} {state next : State} {runs : List (Mode × Signal)}
      {trigger armed : Nat} {begun : Mode} {outcome : Signal} :
      Course setting number mode args first past state runs trigger → state.step = some next →
      .ran number trigger begun outcome ∈ state.deeds → Arms state next number armed →
      Course setting number mode args first (state :: past) next ((begun, outcome) :: runs) armed
  | issue {past : List State} {state : State} {runs : List (Mode × Signal)} {trigger : Nat}
      (operation : Operation) : Course setting number mode args first past state runs trigger →
      state.mainHasFinished = true →
      Course setting number mode args first (state :: past) (state.issue operation) runs trigger
  | step {past : List State} {state next : State} {runs : List (Mode × Signal)} {trigger : Nat} :
      Course setting number mode args first past state runs trigger → state.step = some next →
      Course setting number mode args first (state :: past) next runs trigger

def after (state : State) : State :=
  state.step.getD state

theorem step_after {state : State} (moves : state.step.isSome = true) :
    state.step = some state.after := by
  obtain ⟨next, stepped⟩ := Option.isSome_iff_exists.mp moves
  rw [after, stepped]
  rfl

def BeginsRun (state : State) (number trigger : Nat) : Prop :=
  ∃ args rest value,
    state.active = some ⟨.thread trigger, .call (.fire number trigger) args :: rest, .ok value⟩

/-- The next step calls a function for a trigger of a task, in a run that was begun in a mode. -/
def Calls (state : State) (number trigger : Nat) (work : Work) (args : List Value) (begun : Mode) :
    Prop :=
  ∃ agent noted called rest value, state.active =
    some ⟨agent, .call work args :: .fired number trigger noted begun called :: rest, .ok value⟩

/-- The run of a trigger is called with the given arguments, and they can be seen while it waits. -/
structure Threads (state : State) (past : List State) (number trigger : Nat)
    (args : List Value) : Prop where
  /-- The function is the one that the task has where the run begins, and so is the mode. -/
  called : ∀ work given begun, state.Calls number trigger work given begun → given = args ∧
    ∃ before earlier, past = before :: earlier ∧ before.BeginsRun number trigger ∧
      work = (before.entry number).work ∧ begun = (before.entry number).mode
  waiting : state.outcome trigger = none → number ∈ state.registered ∧
    (state.entry number).trigger = some trigger ∧
    (state.snapshot (state.entry number)).pendingArgs = args

/-- The next step starts a task that still holds a trigger, and leaves it running with no run ahead, in
another mode. -/
def Swaps (state : State) (number : Nat) : Prop :=
  ∃ next, .started number ∈ state.deeds ∧ (state.entry number).trigger ≠ none ∧
    state.step = some next ∧ (next.entry number).isRunning = true ∧
    (next.entry number).nextRun = none ∧ (next.entry number).mode ≠ (state.entry number).mode

variable {state middle later next : State} {agent : Agent} {number trigger armed : Nat}
  {mode : Mode} {args : List Value}

/-! ### The mode of a chain -/

def InMode (state : State) (number trigger : Nat) (mode : Mode) : Prop :=
  (state.entry number).trigger = some trigger → (state.entry number).mode = mode ∧
    ∀ args begun work,
      .fired number trigger args begun work ∈ state.stackOf (.thread trigger) → begun = mode

theorem not_fired_callbackFrames (task : Nat) (callback : Option Work) (given : List Value)
    (args : List Value) (begun : Mode) (work : Work) :
    .fired number trigger args begun work ∉ callbackFrames task callback given := by
  intro member
  obtain ⟨_, -, same⟩ := mem_callbackFrames member
  cases same

theorem not_fired_complain (state : State) (other : Nat) (target : Work) (stage : String)
    (failure : Failure) (args : List Value) (begun : Mode) (work : Work) :
    .fired number trigger args begun work ∉
      (state.complain other target stage failure).2.frames := by
  intro member
  rcases mem_complain member with plain | ⟨_, _, -, -, same⟩
  · cases plain
  · cases same

theorem Ending.not_fired {task other : Nat} {given : List Value} {mode : Mode} {outcome : Signal}
    {move : Move} (ending : Ending state task other given mode outcome later move)
    (args : List Value) (begun : Mode) (work : Work) :
    .fired number trigger args begun work ∉ move.frames := by
  intro member
  rcases ending.mem_frames member with plain | ⟨_, -, same⟩
  · cases plain
  · cases same

theorem Reply.mode_of_fired {signal : Signal} {frame : Frame} {move : Move} {begun : Mode}
    {work : Work} (reply : Reply state agent signal frame later move)
    (member : .fired number trigger args begun work ∈ move.frames) :
    begun = (state.entry number).mode := by
  have called : ∀ {called base : Frame}, .fired number trigger args begun work ∈ [called, base] →
      .fired number trigger args begun work = called ∨
        .fired number trigger args begun work = base := fun member =>
    (List.mem_cons.mp member).imp_right List.mem_singleton.mp
  cases reply with
  | plain _ _ _ plain | request _ _ plain => cases plain _ member
  | passed | dispatched | calledBack | cancelled | misfires => cases member
  | waits | regrets => cases List.mem_singleton.mp member
  | proceeds | obeys | callsBack => rcases called member with same | same <;> cases same
  | breaks | complains => exact absurd member (not_fired_complain _ _ _ _ _ _ _ _)
  | settles => exact absurd member (not_fired_callbackFrames _ _ _ _ _ _)
  | ran => exact absurd member ((endRun_ending _ _ _ _ _ _ _).not_fired _ _ _)
  | fires =>
    rcases called member with same | same
    · cases same
    · cases same
      rfl

theorem InMode.step (tuned : InMode state number trigger mode) (sound : Sound state)
    (owned : state.owner trigger = some number) (steady : ¬ state.Swaps number)
    (stepped : state.step = some next) : InMode next number trigger mode := by
  intro holds
  have old := Local.within_of_owner owned
  have held := sound.held_before stepped old holds
  obtain ⟨same, runs⟩ := tuned held
  constructor
  · by_cases started : .started number ∈ state.deeds
    · obtain ⟨aimless, ⟨mode, begun⟩ | ⟨-, released⟩⟩ := sound.started stepped started
      · refine Classical.not_not.mp fun differs => ?_
        refine steady ⟨next, started, by rw [held]; rintro ⟨⟩, stepped, ?_, ?_, ?_⟩
        · rw [begun]; rfl
        · rw [begun]; exact aimless
        · rw [same]; exact differs
      · exact absurd holds (released trigger old)
    · exact (sound.unstarted stepped started).1.trans same
  · intro args begun work member
    cases sound.restacked stepped (.thread trigger) with
    | kept aside stack => exact runs args begun work (stack ▸ member)
    | begun other own unstarted stack =>
      rw [stack] at member
      cases List.mem_singleton.mp member
    | ended stack => rw [stack] at member; cases member
    | answered replied =>
      rw [replied.turns.stack] at member
      rcases List.mem_append.mp member with member | member
      · exact (replied.reply.mode_of_fired member).trans same
      · refine runs args begun work ?_
        rw [stackOf_active replied.active]
        exact List.mem_cons_of_mem _ member

theorem InMode.issue (tuned : InMode state number trigger mode)
    (finished : state.mainHasFinished = true) (operation : Operation) :
    InMode (state.issue operation) number trigger mode := by
  intro held
  have apart := (activateMain_turns (mainHasFinished_idle finished)
    [.perform operation]).otherStacks (.thread trigger) (by rintro ⟨⟩)
  obtain ⟨same, runs⟩ := tuned held
  exact ⟨same, fun args begun work member => runs args begun work (apart ▸ member)⟩

end State

/-! ### Courses -/

namespace State.Course

variable {setting : Setting} {number first : Nat} {mode : Mode} {args : List Value}
  {past : List State} {state : State} {runs : List (Mode × Signal)} {trigger : Nat}

theorem trace (course : Course setting number mode args first past state runs trigger) :
    Trace (.initial setting) past state := by
  induction course with
  | begins earlier stepped => exact earlier.step stepped
  | goesOn _ stepped _ _ ih => exact ih.step stepped
  | issue operation _ finished ih => exact ih.issue operation finished
  | step _ stepped ih => exact ih.step stepped

theorem armed (course : Course setting number mode args first past state runs trigger) :
    state.owner trigger = some number ∧ state.isStarted trigger = true := by
  induction course with
  | begins earlier stepped begins =>
    have sound := (earlier.sound (.initial setting)).step stepped
    exact (sound.linked.tasks number).held _ begins.held
  | goesOn earlier stepped _ arms =>
    have sound := (earlier.trace.sound (.initial setting)).step stepped
    exact (sound.linked.tasks number).held _ arms.held
  | issue operation _ finished ih => exact ih
  | step earlier stepped ih =>
    obtain ⟨owned, started, -⟩ :=
      (earlier.trace.sound (.initial setting)).armed_step stepped ih.1 ih.2
    exact ⟨owned, started⟩

theorem args_eq (course : Course setting number mode args first past state runs trigger) :
    (state.trigger trigger).args = threaded args runs := by
  induction course with
  | begins earlier stepped begins =>
    exact ((earlier.sound (.initial setting)).begins_args stepped begins).1
  | goesOn earlier stepped ran arms ih =>
    rw [((earlier.trace.sound (.initial setting)).goesOn_args stepped ran arms).2, ih]
    rfl
  | issue operation _ finished ih => exact ih
  | step earlier stepped ih =>
    obtain ⟨owned, started⟩ := earlier.armed
    rw [((earlier.trace.sound (.initial setting)).armed_step stepped owned started).2.2, ih]

/-- A run of a chain is called with the arguments that the chain has come to, and those can be seen
while it waits. -/
theorem threads (course : Course setting number mode args first past state runs trigger) :
    state.Threads past number trigger (threaded args runs) := by
  have trace := course.trace
  have sound := trace.sound (.initial setting)
  constructor
  · rintro work given begun ⟨agent, noted, called, rest, value, active⟩
    obtain ⟨prior, earlier, rfl, before, frame, base, below, held, ran, calling, same⟩ :=
      trace.calling active
    obtain ⟨rfl, rfl⟩ := List.cons.inj same
    obtain ⟨rfl, -, -, fits⟩ := sound.fits_active active
      (.fired number trigger noted begun called) (List.mem_cons_of_mem _ List.mem_cons_self)
    cases calling
    exact ⟨fits.trans course.args_eq, prior, earlier, rfl, ⟨_, _, _, ran⟩, rfl, rfl⟩
  · intro undecided
    obtain ⟨owned, started⟩ := course.armed
    obtain ⟨armed, running, -⟩ := (sound.linked.tasks number).armed trigger owned started undecided
    have held : (state.entry number).trigger = some trigger := armed
    refine ⟨sound.linked.tidy.running number (isRunning_iff.mpr running), held, ?_⟩
    unfold snapshot
    rw [held]
    exact course.args_eq

theorem after (course : Course setting number mode args first past state runs trigger)
    (moves : state.step.isSome = true) :
    Course setting number mode args first (state :: past) state.after runs trigger :=
  course.step (step_after moves)

end State.Course

namespace Trace

variable {setting : Setting} {past : List State} {state : State} {number : Nat}

/-- A session up to a state that was passed through, and the state after it. -/
theorem split (trace : Trace (.initial setting) past state) {visited : State}
    (member : visited ∈ past) : ∃ earlier, Trace (.initial setting) earlier visited ∧
      visited :: earlier <:+ past ∧ (visited.active = none ∨
        ∃ next, visited.step = some next ∧ next :: visited :: earlier <:+ state :: past) := by
  induction trace with
  | refl => cases member
  | @issue past state operation trace finished ih =>
    rcases List.mem_cons.mp member with rfl | member
    · exact ⟨past, trace, List.suffix_refl _, .inl (State.mainHasFinished_idle finished)⟩
    · obtain ⟨earlier, reached, within, next⟩ := ih member
      refine ⟨earlier, reached, within.trans (List.suffix_cons _ _), next.imp_right ?_⟩
      rintro ⟨next, stepped, within⟩
      exact ⟨next, stepped, within.trans (List.suffix_cons _ _)⟩
  | @step past state next trace stepped ih =>
    rcases List.mem_cons.mp member with rfl | member
    · exact ⟨past, trace, List.suffix_refl _, .inr ⟨next, stepped, List.suffix_refl _⟩⟩
    · obtain ⟨earlier, reached, within, next⟩ := ih member
      refine ⟨earlier, reached, within.trans (List.suffix_cons _ _), next.imp_right ?_⟩
      rintro ⟨next, stepped, within⟩
      exact ⟨next, stepped, within.trans (List.suffix_cons _ _)⟩

/-- A task that gives seven is started in chain mode with one and stopped while it runs. A start in
iterative mode, in which the planner asks to leave, lets the chain go on in that mode: its third run is
called with seven. -/
theorem leaving_start_swaps : ∃ past state,
    Trace (.initial { Setting.ofRules 0 .universal with
      plans := some [.delay 5000000, .raise ⟨"SystemExit", "bye"⟩, .delay 5000000] }) past state ∧
    (state.entry 0).mode = .iterative ∧ (state.entry 0).trigger = some 2 ∧
    (state.trigger 0).args = [.int 1] ∧ (state.trigger 1).args = [.int 1] ∧
    (state.trigger 2).args = [.int 7] := by
  have begun : Trace (.initial { Setting.ofRules 0 .universal with
      plans := some [.delay 5000000, .raise ⟨"SystemExit", "bye"⟩, .delay 5000000] }) [] _ := .refl
  obtain ⟨_, added⟩ := begun.perform rfl ⟨.add "job" (.text "* * * * *")
    (.script "work" [.sleep 10000000, .giveBack (.int 7)]), true⟩
  obtain ⟨_, started⟩ := added.perform rfl ⟨.start "job" .chain [.int 1], true⟩
  obtain ⟨_, runs⟩ := started.perform rfl ⟨.advance 6000000, true⟩
  obtain ⟨_, stopped⟩ := runs.perform rfl ⟨.stop (some "job") none, true⟩
  obtain ⟨_, swapped⟩ := stopped.perform rfl ⟨.start "job" .iterative [.int 2], true⟩
  obtain ⟨_, late⟩ := swapped.perform rfl ⟨.advance 25000000, true⟩
  exact ⟨_, _, late, rfl, rfl, rfl, rfl, rfl⟩

end Trace

end Timetable
