import Timetable.Proofs.Chain.Final
import Timetable.Proofs.Chain.Joined
import Timetable.Proofs.Chain.Threaded

/-! What a shutdown leaves behind.

A shutdown joins the triggers that the registered tasks hold. What was outstanding of those is done when
it returns. It does not join a trigger that no task holds any more while its thread is under way, such as
that of a chain that was stopped and started anew during a run, and whatever is left outstanding is left
by such a trigger, or by one that was armed and stopped while the shutdown lasted.
-/

set_option autoImplicit false

namespace Timetable

theorem Stage.of_pending {number trigger : Nat} {args : List Value} {before : Standing}
    {ledger : Ledger} {callback : Work} (stage : Stage number trigger args before ledger)
    (pending : before.pending = some callback) :
    ledger.stops = [(number, callback)] ∧ ledger.settlements = [] := by
  have opened : ledger.IsOpen number before.pending →
      ledger.stops = [(number, callback)] ∧ ledger.settlements = [] := by
    intro opened
    rw [pending] at opened
    exact ⟨opened.stops, opened.settlements⟩
  cases stage with
  | waits _ _ _ _ _ _ opens => exact opened opens
  | calls _ _ _ _ _ opens => exact opened opens
  | runs _ _ _ _ _ opens => exact opened opens
  | fails _ _ _ either =>
    rcases either with opens | ⟨none, -⟩
    · exact opened opens
    · cases none.symm.trans pending
  | settles _ _ _ _ _ _ none => cases none.symm.trans pending
  | finished _ none => cases none.symm.trans pending

namespace State

/-- The thread of a trigger has called the callback of every stop that was issued against the trigger,
and the callback has returned. -/
def Served (state : State) (past : List State) (trigger : Nat) : Prop :=
  ∀ number callback, .stopped number trigger callback ∈ history past →
    (∃ args, (.thread trigger, number, callback, args) ∈ callbacks (state :: past)) ∧
      ∀ args, .calledBack number callback args ∉ state.stackOf (.thread trigger)

/-- A trigger has called the function of its task, and the call lasts. -/
def Executes (state : State) (trigger : Nat) : Prop :=
  ∃ number args mode work,
    .fired number trigger args mode work ∈ state.stackOf (.thread trigger)

/-- Nothing of a trigger is outstanding. -/
structure Done (state : State) (past : List State) (trigger : Nat) : Prop where
  served : state.Served past trigger
  halted : ¬ state.Executes trigger

/-- The thread of a trigger of a task is under way, and no registered task holds the trigger. -/
structure Loose (state : State) (trigger : Nat) : Prop where
  owned : state.owner trigger ≠ none
  started : state.isStarted trigger = true
  alive : (state.trigger trigger).thread ≠ .ended
  released : trigger ∉ state.heldTriggers

/-- `Drained setting past called state`: a session that has come to `state` by way of `past` has nothing
outstanding of what there was in `called` and nothing that is to be stopped. -/
structure Drained (setting : Setting) (past : List State) (called state : State) : Prop where
  settled : ∀ number ∈ state.registered,
    (state.snapshot (state.entry number)).stopping = false
  served : ∀ trigger, state.Served past trigger
  /-- No call lasts in a chain that was started before. -/
  halted : ∀ number mode args first runs trigger,
    Course setting number mode args first past state runs trigger →
      first < called.triggers.size → ¬ state.Executes trigger

/-- Tasks that run hold no trigger below a bound. -/
def Retired (bound : Nat) (state : State) : Prop :=
  ∀ number trigger, state.stoppable? number = some trigger → bound ≤ trigger

variable {state later next : State} {number trigger bound : Nat} {past : List Deed}

/-! ### Chains that are over -/

/-- Triggers that no task holds while it runs are not held by one that runs again, unless a start strands
its task. -/
theorem Retired.step (retired : Retired bound state) (sound : Sound state)
    (stepped : state.step = some next) (seeing : ¬ state.Strands)
    (within : bound ≤ state.triggers.size) : Retired bound next := by
  intro number trigger found
  obtain ⟨running, held⟩ := stoppable?_iff.mp found
  refine Nat.le_of_not_lt fun below => ?_
  have old := Nat.lt_of_lt_of_le below within
  have before := sound.held_before stepped old held
  -- The trigger was held before, so it is a start that has the task run again, if anything.
  by_cases started : .started number ∈ state.deeds
  · obtain ⟨unplanned, ⟨mode, begun⟩ | ⟨-, releases⟩⟩ := sound.started stepped started
    · refine seeing ⟨number, next, started, by rw [before]; rintro ⟨⟩, stepped, running, ?_⟩
      rw [begun]
      exact unplanned
    · exact releases trigger old held
  · have ran := (sound.unstarted stepped started).2 running
    exact Nat.not_lt_of_le (retired number trigger (stoppable?_iff.mpr ⟨ran, before⟩)) below

theorem Accounts.of_stopped (accounts : Accounts state past) {callback : Work}
    (stopped : .stopped number trigger callback ∈ past) :
    ∃ task, state.owner trigger = some task ∧ state.isStarted trigger = true := by
  refine Classical.byContradiction fun fresh => ?_
  have member := Ledger.mem_stops.mpr stopped
  rw [accounts.fresh trigger fun task owned => by
    simpa using fun started => fresh ⟨task, owned, started⟩] at member
  cases member

end State

/-! ### Traces -/

namespace Trace

variable {setting : Setting} {past later : List State} {first state : State} {number trigger : Nat}

theorem after (trace : Trace first past state) (moves : state.step.isSome = true) :
    Trace first (state :: past) state.after :=
  trace.step (State.step_after moves)

theorem here (_ : Trace first past state) : Trace state [] state :=
  .refl

theorem owner_eq (trace : Trace first later state) (sound : first.Sound)
    (old : trigger < first.triggers.size) :
    trigger < state.triggers.size ∧ state.owner trigger = first.owner trigger := by
  induction trace with
  | refl => exact ⟨old, rfl⟩
  | issue operation earlier finished ih => exact ih
  | step earlier stepped ih =>
    have before := earlier.sound sound
    exact ⟨Nat.lt_of_lt_of_le ih.1 (before.triggers_le stepped),
      (before.owner_eq stepped ih.1).trans ih.2⟩

theorem ended (trace : Trace first later state) (sound : first.Sound)
    (ended : (first.trigger trigger).thread = .ended) :
    (state.trigger trigger).thread = .ended := by
  induction trace with
  | refl => exact ended
  | issue operation earlier finished ih => exact ih
  | step earlier stepped ih => exact (earlier.sound sound).ended_step stepped ih

theorem stays_unstarted (trace : Trace first later state) (sound : first.Sound)
    (owned : first.owner trigger = some number) (unstarted : first.isStarted trigger = false) :
    state.isStarted trigger = false := by
  induction trace with
  | refl => exact unstarted
  | issue operation earlier finished ih => exact ih
  | step earlier stepped ih =>
    have before := (earlier.owner_eq sound (State.Local.within_of_owner owned)).2
    exact (earlier.sound sound).stays_unstarted stepped (before.trans owned) ih

/-- Once the thread of a trigger has ended, the stops against it have been settled. -/
theorem done_of_ended (trace : Trace (.initial setting) past state)
    (accounts : state.Accounts (State.history past))
    (ended : (state.trigger trigger).thread = .ended) : state.Done past trigger := by
  have empty := State.stackOf_ended (trace.sound (.initial setting)) ended
  constructor
  · intro number callback stopped
    have settles := trace.settles accounts stopped
    rw [empty]
    refine ⟨?_, fun _ => List.not_mem_nil⟩
    rcases settles.called with uncalled | called
    · exact absurd uncalled (settles.ended ended)
    · rw [← trace.settlements_eq] at called
      exact ⟨_, trace.mem_callbacks.mpr
        (Ledger.mem_settlements.mp (by rw [called]; exact List.mem_cons_self))⟩
  · rintro ⟨number, args, mode, work, member⟩
    rw [empty] at member
    cases member

/-- A task has no stop pending once the callbacks of all stops have been called. -/
theorem unstopped (trace : Trace (.initial setting) past state)
    (accounts : state.Accounts (State.history past))
    (served : ∀ trigger, state.Served past trigger) (number : Nat) :
    (state.entry number).stops = [] := by
  refine List.eq_nil_iff_forall_not_mem.mpr fun ⟨trigger, work⟩ member => ?_
  have linked := (trace.sound (.initial setting)).linked
  obtain ⟨owned, started, -, -⟩ := (linked.tasks number).stops _ member
  cases pending : (state.entry number).stopCallback? trigger with
  | none =>
    have absent := List.lookup_eq_none_iff.mp pending _ member
    simp at absent
  | some callback =>
    obtain ⟨issued, unsettled⟩ := (accounts.stage trigger number owned started).of_pending pending
    have stopped : .stopped number trigger callback ∈ State.history past :=
      Ledger.mem_stops.mp (by rw [issued]; exact List.mem_cons_self)
    obtain ⟨args, called⟩ := (served trigger number callback stopped).1
    have member := Ledger.mem_settlements.mpr (trace.mem_callbacks.mp called)
    rw [unsettled] at member
    cases member

end Trace

namespace Shutdown

variable {setting : Setting} {callback : Option Callable} {timeout : Option Int}
  {past later : List State} {called state : State} {number trigger : Nat}

theorem goesOn (shutdown : Shutdown setting callback timeout past called later state)
    (busy : state.mainHasFinished = false) (moves : state.step.isSome = true) :
    Shutdown setting callback timeout past called (state :: later) state.after :=
  shutdown.step busy (State.step_after moves)

/-- Once a shutdown has stopped the tasks, those that run hold no trigger that there was before. -/
theorem retired (shutdown : Shutdown setting callback timeout past called later state) :
    (∀ visited ∈ later, ¬ visited.Strands) → called.triggers.size ≤ state.triggers.size ∧
      (state.active = some ⟨.main, [.perform (.shutdown callback timeout)], .ok .null⟩ ∨
        state.Retired called.triggers.size) := by
  induction shutdown with
  | called _ active => exact fun _ => ⟨Nat.le_refl _, .inl active⟩
  | @step later state next earlier busy stepped ih =>
    intro seeing
    obtain ⟨within, stopped⟩ := ih fun visited member => seeing visited (List.mem_cons_of_mem _ member)
    have sound := earlier.trace.sound (.initial setting)
    refine ⟨Nat.le_trans within (sound.triggers_le stepped), .inr ?_⟩
    -- In its first step the shutdown stops all tasks; later ones start them with new triggers.
    rcases stopped with active | retired
    · intro number trigger found
      obtain ⟨running, held⟩ := State.stoppable?_iff.mp found
      have rests := sound.rests_of_ends active
        (show state.Ends (next.entry number).name (.shutdown callback timeout) from trivial) stepped
      cases held.symm.trans (rests number rfl running)
    · exact retired.step sound stepped (seeing state List.mem_cons_self) within

/-- A chain that was started before a shutdown does not go on once the tasks have been stopped. -/
theorem course_within {mode : Mode} {args : List Value} {first : Nat}
    (shutdown : Shutdown setting callback timeout past called later state) :
    (∀ visited ∈ later, ¬ visited.Strands) → ∀ (runs : List (Mode × Signal)) (trigger : Nat),
      State.Course setting number mode args first (later ++ past) state runs trigger →
      first < called.triggers.size → trigger < called.triggers.size := by
  induction shutdown with
  | called => exact fun _ runs trigger course _ => State.Local.within_of_owner course.armed.1
  | @step later state next earlier busy stepped ih =>
    intro seeing runs trigger course old
    have calm : ∀ visited ∈ later, ¬ visited.Strands :=
      fun visited member => seeing visited (List.mem_cons_of_mem _ member)
    cases course with
    | begins => exact old
    | issue operation _ finished => rw [busy] at finished; cases finished
    | step course => exact ih calm _ _ course old
    | goesOn course same ran arms =>
      have sound := course.trace.sound (.initial setting)
      -- A run whose task holds no old trigger while it runs is not followed by another.
      rcases (earlier.retired calm).2 with active | retired
      · obtain ⟨_, _, _, running, -⟩ := State.active_of_ran sound ran
        cases active.symm.trans running
      · have found := (sound.goesOn_args same ran arms).1
        exact absurd (ih calm _ _ course old) (Nat.not_lt_of_le (retired _ _ found))

/-- When a shutdown returns none of whose joins has timed out, the thread of a trigger that was there
before has ended, unless the trigger was loose. -/
theorem ended_or_loose (shutdown : Shutdown setting callback timeout past called later state)
    (returned : state.mainHasFinished = true) (patient : ∀ visited ∈ later, ¬ visited.TimesOut)
    (old : trigger < called.triggers.size)
    (owned : state.owner trigger = some number) (started : state.isStarted trigger = true) :
    (state.trigger trigger).thread = .ended ∨ called.Loose trigger := by
  have sound := shutdown.before.sound (.initial setting)
  have before := (shutdown.after.owner_eq sound old).2.symm.trans owned
  by_cases ended : (called.trigger trigger).thread = .ended
  · exact .inl (shutdown.after.ended sound ended)
  · by_cases held : trigger ∈ called.heldTriggers
    · exact .inl ((shutdown.joined returned patient).2 trigger held)
    · refine .inr ⟨by rw [before]; rintro ⟨⟩, ?_, ended, held⟩
      -- A thread that was not started then never was.
      refine Classical.byContradiction fun unstarted => ?_
      rw [shutdown.after.stays_unstarted sound before (by simpa using unstarted)] at started
      cases started

theorem done_of_loose (shutdown : Shutdown setting callback timeout past called later state)
    (returned : state.mainHasFinished = true) (patient : ∀ visited ∈ later, ¬ visited.TimesOut)
    (accounts : state.Accounts (State.history (later ++ past)))
    (loose : ∀ trigger, called.Loose trigger →
      state.Done (later ++ past) trigger)
    (old : trigger < called.triggers.size) (owned : state.owner trigger = some number)
    (started : state.isStarted trigger = true) :
    state.Done (later ++ past) trigger := by
  rcases shutdown.ended_or_loose returned patient old owned started with ended | unheld
  · exact shutdown.trace.done_of_ended accounts ended
  · exact loose trigger unheld

/-- A shutdown leaves nothing outstanding but what loose triggers and new ones do. -/
theorem drained (shutdown : Shutdown setting callback timeout past called later state)
    (returned : state.mainHasFinished = true) (patient : ∀ visited ∈ later, ¬ visited.TimesOut)
    (seeing : ∀ visited ∈ later, ¬ visited.Strands)
    (accounts : state.Accounts (State.history (later ++ past)))
    (loose : ∀ trigger, called.Loose trigger →
      state.Done (later ++ past) trigger)
    (recent : ∀ trigger, called.triggers.size ≤ trigger →
      state.Served (later ++ past) trigger) :
    State.Drained setting (later ++ past) called state := by
  have trace := shutdown.trace
  have served : ∀ trigger, state.Served (later ++ past) trigger := by
    intro trigger number work stopped
    rcases Nat.lt_or_ge trigger called.triggers.size with old | new
    · obtain ⟨task, owned, started⟩ := accounts.of_stopped stopped
      have done := shutdown.done_of_loose returned patient accounts loose old owned started
      exact done.served number work stopped
    · exact recent trigger new number work stopped
  constructor
  case served => exact served
  case settled =>
    intro number _
    have none := trace.unstopped accounts served number
    rw [State.snapshot, none]
    rfl
  case halted =>
    intro number mode args first runs trigger course before
    have old := shutdown.course_within seeing runs trigger course before
    obtain ⟨owned, started⟩ := course.armed
    exact (shutdown.done_of_loose returned patient accounts loose old owned started).halted

/-- A task is stopped during a run and started again. A shutdown without a limit of time returns while
the run lasts and the callback of its stop has yet to be called. -/
theorem superseded_run_outlives : ∃ past called later state,
    Shutdown { Setting.ofRules 0 .universal with plans := some [.delay 5000000] } none none past called
      later state ∧
    state.mainHasFinished = true ∧ (∀ visited ∈ later, ¬ visited.TimesOut) ∧ called.Loose 0 ∧
    state.Executes 0 ∧ ¬ State.Drained { Setting.ofRules 0 .universal with
      plans := some [.delay 5000000] } (later ++ past) called state := by
  have begun : Trace (.initial { Setting.ofRules 0 .universal with
      plans := some [.delay 5000000] }) [] _ := .refl
  obtain ⟨_, added⟩ := begun.perform rfl ⟨.add "job" (.text "* * * * *")
    (.script "work" [.sleep 10000000]), true⟩
  obtain ⟨_, started⟩ := added.perform rfl ⟨.start "job" .chain [.int 1], true⟩
  obtain ⟨_, runs⟩ := started.perform rfl ⟨.advance 6000000, true⟩
  obtain ⟨_, stopped⟩ := runs.perform rfl ⟨.stop (some "job") (some (.script "one" [])), true⟩
  obtain ⟨_, anew⟩ := stopped.perform rfl ⟨.start "job" .chain [.int 2], true⟩
  have begins : Shutdown _ none none _ _ _ _ := .called (anew.issue (.shutdown none none) rfl) rfl
  have joins := ((((begins.goesOn rfl rfl).goesOn rfl rfl).goesOn rfl rfl).goesOn rfl rfl).goesOn
    rfl rfl
  have settles := ((((joins.goesOn rfl rfl).goesOn rfl rfl).goesOn rfl rfl).goesOn rfl rfl).goesOn
    rfl rfl
  have returns := ((settles.goesOn rfl rfl).goesOn rfl rfl).goesOn rfl rfl
  refine ⟨_, _, _, _, returns, rfl, ?patient, ⟨by rintro ⟨⟩, rfl, by rintro ⟨⟩, ?released⟩,
    ⟨0, [.int 1], .chain, _, List.mem_cons_of_mem _ (List.mem_cons_of_mem _ List.mem_cons_self)⟩,
    fun drained => ?pending⟩
  case patient =>
    intro visited member late
    repeat
      rcases List.mem_cons.mp member with rfl | member
      · cases late with
        | atOnce active => cases active
        | waited idle queued waits => cases waits
    cases member
  case released =>
    exact fun member => Nat.zero_ne_one (List.mem_singleton.mp member)
  case pending =>
    exact absurd (drained.settled 0 List.mem_cons_self) Bool.true_eq_false.mp

end Shutdown

end Timetable
