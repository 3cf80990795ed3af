import Timetable.Proofs.Chain.Local
import Timetable.Proofs.Machine.Trace

/-! The log is never read.

Whatever a machine does, it does with any lines at the beginning of its log. So a session may be told
with other lines in their place.
-/

set_option autoImplicit false

namespace Timetable

namespace State

def under (older : List (Level × String)) (state : State) : State :=
  { state with log := state.log ++ older }

def beneath {α : Type} (older : List (Level × String)) (result : State × α) : State × α :=
  (result.1.under older, result.2)

variable {α : Type} {state : State} {agent : Agent} {older : List (Level × String)}

/-! ### What is read -/

@[simp] theorem setting_under : (state.under older).setting = state.setting := rfl

@[simp] theorem clock_under : (state.under older).clock = state.clock := rfl

@[simp] theorem failingStarts_under : (state.under older).failingStarts = state.failingStarts := rfl

@[simp] theorem triggers_under : (state.under older).triggers = state.triggers := rfl

@[simp] theorem entry_under (number : Nat) : (state.under older).entry number = state.entry number :=
  rfl

@[simp] theorem trigger_under (trigger : Nat) :
    (state.under older).trigger trigger = state.trigger trigger := rfl

@[simp] theorem now_under : (state.under older).now = state.now := rfl

@[simp] theorem find?_under (name : String) : (state.under older).find? name = state.find? name :=
  rfl

@[simp] theorem names_under : (state.under older).names = state.names := rfl

@[simp] theorem holds_under (pause : Pause) : (state.under older).holds pause = state.holds pause :=
  rfl

/-! ### What is written -/

@[simp] theorem tell_under (level : Level) (line : String) :
    (state.under older).tell level line = (state.tell level line).under older := rfl

@[simp] theorem updateEntry_under (number : Nat) (change : Entry → Entry) :
    (state.under older).updateEntry number change = (state.updateEntry number change).under older :=
  rfl

@[simp] theorem updateTrigger_under (trigger : Nat) (change : Trigger → Trigger) :
    (state.under older).updateTrigger trigger change =
      (state.updateTrigger trigger change).under older := rfl

@[simp] theorem makeTrigger_under (due : Option DateTime) (work : Work) (args : List Value)
    (errors : ErrorTarget) (name : String) :
    (state.under older).makeTrigger due work args errors name =
      (state.makeTrigger due work args errors name).under older := rfl

theorem startThread_under (trigger : Nat) :
    (state.under older).startThread trigger = beneath older (state.startThread trigger) := by
  simp only [startThread, updateTrigger_under, trigger_under, failingStarts_under]
  split <;> rfl

theorem commit_under (trigger : Nat) (outcome : Outcome) (callback : Option Work) :
    (state.under older).commit trigger outcome callback =
      beneath older (state.commit trigger outcome callback) := by
  have same : (state.under older).outcome trigger = state.outcome trigger := rfl
  by_cases undecided : state.outcome trigger = none
  · rw [commit_undecided undecided, commit_undecided (same.trans undecided)]
    rfl
  · rw [commit_decided undecided, commit_decided (same ▸ undecided)]
    rfl

theorem dispatch_under (trigger : Nat) :
    (state.under older).dispatch trigger = beneath older (state.dispatch trigger) := by
  simp only [dispatch, trigger_under]
  split <;> rfl

theorem awaitDecision_under (trigger : Nat) (remaining : Int) :
    (state.under older).awaitDecision trigger remaining =
      beneath older (state.awaitDecision trigger remaining) := by
  -- The wait may be put on record first, which goes to the events.
  have waits : ∀ state : State,
      (if (state.trigger trigger).decision.isCommitted then (state.under older).dispatch trigger
        else (state.under older, .wait [.waited trigger] (.decision trigger)
          (some (state.clock + throughSeconds (min remaining state.setting.longestWait))))) =
      beneath older (if (state.trigger trigger).decision.isCommitted then state.dispatch trigger
        else (state, .wait [.waited trigger] (.decision trigger)
          (some (state.clock + throughSeconds (min remaining state.setting.longestWait))))) := by
    intro state
    split
    · exact dispatch_under trigger
    · rfl
  unfold awaitDecision
  cases traces : state.setting.tracesWaits with
  | true =>
    simp only [setting_under, traces, if_true]
    exact waits (state.record _)
  | false =>
    simp only [setting_under, traces]
    exact waits state

theorem handOver_under (callable : Callable) :
    (state.under older).handOver callable = beneath older (state.handOver callable) := by
  cases callable <;> rfl

theorem callbackOf_under (callback : Option Callable) :
    (state.under older).callbackOf callback = beneath older (state.callbackOf callback) := by
  unfold callbackOf
  split
  · rfl
  · rfl
  · exact handOver_under _

theorem makeFor_under (due : Option DateTime) (fn : Callable) (args : List Value)
    (sink : Option (List Action)) (name : String) :
    (state.under older).makeFor due fn args sink name =
      (state.makeFor due fn args sink name).under older := by
  simp only [makeFor, handOver_under]
  cases sink <;> rfl

/-! ### Tasks -/

theorem addTask_under (name : String) (rule : Rule) (work : Work) :
    (state.under older).addTask name rule work = beneath older (state.addTask name rule work) := by
  simp only [addTask, find?_under]
  split <;> rfl

theorem removeTask_under (name : String) :
    (state.under older).removeTask name = beneath older (state.removeTask name) := by
  unfold removeTask
  rw [find?_under]
  split
  · rfl
  · rw [entry_under]
    split <;> rfl

theorem stopChain_under (number : Nat) (callback : Work) :
    (state.under older).stopChain number callback =
      beneath older (state.stopChain number callback) := by
  simp only [stopChain, entry_under, updateEntry_under, commit_under]
  split <;> rfl

theorem stopNamed_under (callback : Work) (names : List String) :
    (state.under older).stopNamed callback names =
      beneath older (state.stopNamed callback names) := by
  induction names generalizing state with
  | nil => rfl
  | cons name rest ih =>
    simp only [stopNamed, find?_under]
    split
    · exact ih
    · simp only [stopChain_under, beneath, ih]

theorem plan_under (rule : Rule) (after : DateTime) :
    (state.under older).plan rule after = beneath older (state.plan rule after) := by
  simp only [plan, setting_under]
  split <;> rfl

theorem armFor_under (number : Nat) (args : List Value) (due : DateTime) :
    (state.under older).armFor number args due = beneath older (state.armFor number args due) := by
  simp only [armFor, entry_under, triggers_under, makeTrigger_under, startThread_under]
  generalize (state.makeTrigger (some due) (.fire number state.triggers.size) args
    (.entry number) (state.entry number).name).startThread state.triggers.size = started
  obtain ⟨spawned, failure | _⟩ := started <;> rfl

theorem arm_under (number : Nat) (args : List Value) (after : Option DateTime) :
    (state.under older).arm number args after = beneath older (state.arm number args after) := by
  simp only [arm, now_under]
  cases state.now with
  | error fault => rfl
  | ok now =>
    dsimp only
    cases planFrom now after with
    | error fault =>
      dsimp only
      split <;> rfl
    | ok time =>
      simp only [entry_under, plan_under]
      generalize state.plan (state.entry number).rule time = planning
      obtain ⟨prior, failure | _ | due⟩ := planning
      · simp only [beneath]
        split <;> rfl
      · rfl
      · simp only [beneath, armFor_under]

theorem startChain_under (number : Nat) (mode : Mode) (args : List Value) :
    (state.under older).startChain number mode args =
      beneath older (state.startChain number mode args) := by
  unfold startChain
  rw [entry_under]
  split
  · rfl
  · simp only [updateEntry_under, arm_under]
    generalize (state.updateEntry number fun entry => entry.begin mode).arm number args none = armed
    obtain ⟨after, failure | report⟩ := armed <;> rfl

theorem startNamed_under (name : String) (mode : Mode) (args : List Value) :
    (state.under older).startNamed name mode args =
      beneath older (state.startNamed name mode args) := by
  simp only [startNamed, find?_under]
  split
  · rfl
  · exact startChain_under _ _ _

theorem fire_under (number trigger : Nat) (args : List Value) :
    (state.under older).fire number trigger args = beneath older (state.fire number trigger args) := by
  simp only [fire, now_under]
  split <;> rfl

theorem goOn_under (number trigger : Nat) (next : List Value) (due : Option DateTime)
    (failed : Option Report) :
    (state.under older).goOn number trigger next due failed =
      beneath older (state.goOn number trigger next due failed) := by
  unfold goOn
  rw [entry_under]
  split
  · rw [arm_under]
    generalize state.arm number next due = armed
    obtain ⟨after, failure | report⟩ := armed <;> rfl
  · rfl

theorem endRun_under (number trigger : Nat) (args : List Value) (mode : Mode) (work : Work)
    (outcome : Signal) :
    (state.under older).endRun number trigger args mode work outcome =
      beneath older (state.endRun number trigger args mode work outcome) := by
  cases outcome with
  | ok value => exact goOn_under _ _ _ _ _
  | error failure =>
    let report := runReport (state.entry number).name (state.trigger trigger).due work args failure
    exact @goOn_under (state.countError number report) older number trigger args
      (state.trigger trigger).due (some report)

theorem abandonChain_under (number trigger : Nat) (report : Report) :
    (state.under older).abandonChain number trigger report =
      beneath older (state.abandonChain number trigger report) := by
  unfold abandonChain
  dsimp only
  rw [entry_under]
  split <;> rfl

theorem complain_under (trigger : Nat) (target : Work) (stage : String) (failure : Failure) :
    (state.under older).complain trigger target stage failure =
      beneath older (state.complain trigger target stage failure) := by
  simp only [complain, trigger_under]
  split
  · rfl
  · rfl
  · rw [abandonChain_under]
    rfl

theorem tellReport_under (report : Report) :
    (state.under older).tellReport report = beneath older (state.tellReport report) := by
  simp only [tellReport, tell_under, setting_under]
  split <;> rfl

theorem countdown_under (trigger : Nat) :
    (state.under older).countdown trigger = beneath older (state.countdown trigger) := by
  simp only [countdown, trigger_under, clock_under, setting_under, commit_under,
    awaitDecision_under]
  split
  · next fault _ =>
    generalize state.commit trigger .cancel none = committed
    obtain ⟨after, won⟩ := committed
    cases won
    · exact dispatch_under trigger
    · exact complain_under _ _ _ _
  · split
    · exact dispatch_under trigger
    · rfl

/-! ### Steps -/

theorem callLibrary_under (called : Library.Function) (args : List Value) :
    (state.under older).callLibrary agent called args =
      beneath older (state.callLibrary agent called args) := by
  unfold callLibrary
  cases called <;>
    · dsimp only
      split <;> rfl

theorem call_under (work : Work) (args : List Value) :
    (state.under older).call agent work args = beneath older (state.call agent work args) := by
  cases work with
  | library called => exact callLibrary_under called args
  | fire number trigger => exact fire_under number trigger args
  | resume name mode given => exact startNamed_under name mode _
  | _ => rfl

theorem onTrigger_under (id : String) {change changed : Nat → State × Move}
    (same : ∀ trigger, changed trigger = beneath older (change trigger)) :
    (state.under older).onTrigger id changed = beneath older (state.onTrigger id change) := by
  have labelled : (state.under older).labelled? id = state.labelled? id := rfl
  unfold onTrigger
  rw [labelled]
  split
  · exact same _
  · rfl

theorem onTask_under (name : String) (absent : Value) {change changed : Nat → State × Move}
    (same : ∀ number, changed number = beneath older (change number)) :
    (state.under older).onTask name absent changed =
      beneath older (state.onTask name absent change) := by
  unfold onTask
  rw [find?_under]
  split
  · exact same _
  · rfl

theorem perform_under (operation : Operation) :
    (state.under older).perform agent operation = beneath older (state.perform agent operation) := by
  cases operation with
  | create id due fn args sink name =>
    simp only [perform, makeFor_under]
    rfl
  | schedule id due fn args sink =>
    simp only [perform, makeFor_under, startThread_under, triggers_under]
    generalize (state.makeFor due fn args sink "").startThread state.triggers.size = started
    obtain ⟨after, failure | _⟩ := started <;> rfl
  | startTrigger id =>
    refine onTrigger_under id fun trigger => ?_
    rw [startThread_under]
    generalize state.startThread trigger = started
    obtain ⟨after, failure | _⟩ := started <;> rfl
  | cancel id => exact onTrigger_under id fun trigger => by rw [commit_under]; rfl
  | redirect id fn =>
    refine onTrigger_under id fun trigger => ?_
    rw [handOver_under]
    simp only [beneath, commit_under]
    rfl
  | join id timeout => exact onTrigger_under id fun trigger => rfl
  | add name rule fn =>
    simp only [perform, handOver_under, beneath, addTask_under]
    split
    · rfl
    · split <;> rfl
  | remove name => simp only [perform, removeTask_under]; rfl
  | updateRule name rule =>
    refine onTask_under name _ fun number => ?_
    split <;> rfl
  | updateFn name fn =>
    refine onTask_under name _ fun number => ?_
    rw [handOver_under]
    generalize state.handOver fn = handed
    obtain ⟨after, work⟩ := handed
    dsimp only [beneath]
    split <;> rfl
  | start name mode args => exact startNamed_under name mode args
  | restart name args =>
    refine onTask_under name _ fun number => ?_
    simp only [entry_under, stopChain_under]
    generalize state.stopChain number (.resume name (state.entry number).mode args) = stopped
    obtain ⟨after, flag⟩ := stopped
    cases flag
    · exact startChain_under _ _ _
    · rfl
  | stop name callback =>
    cases name <;> simp only [perform, callbackOf_under, beneath, names_under, stopNamed_under]
  | status name => exact onTask_under name _ fun number => rfl
  | names => rfl
  | inspect name =>
    cases name with
    | some name => exact onTask_under name _ fun number => rfl
    | none => rfl
  | shutdown callback timeout =>
    simp only [perform, callbackOf_under, beneath, shutdown, names_under, stopNamed_under]
    rfl
  | advance micros => rfl
  | failStarts count => rfl

theorem resume_under (value : Value) (frame : Frame) :
    (state.under older).resume agent value frame =
      beneath older (state.resume agent value frame) := by
  cases frame with
  | countdown trigger => exact countdown_under trigger
  | waited trigger =>
    unfold resume
    dsimp only
    rw [trigger_under]
    split
    · exact dispatch_under trigger
    · exact countdown_under trigger
  | call work args => exact call_under work args
  | perform operation => exact perform_under operation
  | fired number trigger args mode work =>
    exact endRun_under number trigger args mode work (.ok value)
  | report report => exact tellReport_under report
  | joining triggers timeout stopped => cases triggers <;> rfl
  | _ => rfl

theorem handle_under (failure : Failure) (frame : Frame) :
    (state.under older).handle failure frame = beneath older (state.handle failure frame) := by
  unfold handle
  by_cases leaves : failure.leaves = true
  · rw [if_pos leaves, if_pos leaves]
    cases frame <;> first | rfl | (dsimp only; split <;> rfl)
  · rw [if_neg leaves, if_neg leaves]
    cases frame with
    | dispatched trigger target => exact complain_under _ _ _ _
    | fired number trigger args mode work => exact endRun_under _ _ _ _ _ _
    | _ => rfl

theorem answer_under (signal : Signal) (frame : Frame) :
    (state.under older).answer agent signal frame =
      beneath older (state.answer agent signal frame) := by
  cases signal with
  | ok value => exact resume_under value frame
  | error failure => exact handle_under failure frame

theorem make_under (rest : List Frame) (move : Move) :
    (state.under older).make agent rest move = (state.make agent rest move).under older := by
  cases move <;> cases agent <;> rfl

theorem runFrame_under (active : Active) :
    (state.under older).runFrame active = (state.runFrame active).under older := by
  obtain ⟨agent, stack, signal⟩ := active
  cases stack with
  | nil => cases agent <;> rfl
  | cons frame rest =>
    -- What the frame is resumed with decides who answers, and the log does not.
    have answered : ∀ state : State, state.runFrame ⟨agent, frame :: rest, signal⟩ =
        (state.answer agent signal frame).1.make agent rest (state.answer agent signal frame).2 := by
      intro state
      cases signal <;> rfl
    rw [answered, answered, answer_under]
    exact make_under rest _

theorem activate_under (trigger : Nat) :
    (state.under older).activate trigger = (state.activate trigger).under older := by
  unfold activate
  rw [trigger_under]
  split <;> rfl

theorem passTime_under :
    (state.under older).passTime = state.passTime.map (under older) := by
  have main : (state.under older).main = state.main := rfl
  have waiting : (state.under older).waiting = state.waiting := rfl
  unfold passTime
  rw [main]
  split
  · rfl
  · rfl
  · next stack pause deadline _ =>
    rw [holds_under, waiting]
    split
    · rfl
    · split <;> rfl

theorem step_under : (state.under older).step = state.step.map (under older) := by
  have active : (state.under older).active = state.active := rfl
  have ready : (state.under older).ready = state.ready := rfl
  unfold step
  rw [active, ready]
  split
  · next running _ => exact congrArg some (runFrame_under running)
  · next trigger rest _ _ =>
    exact congrArg some (@activate_under { state with ready := rest } older trigger)
  · exact passTime_under

end State

namespace Trace

variable {first state visited : State} {past earlier later : List State}
  {older : List (Level × String)}

theorem under (trace : Trace first past state) (older : List (Level × String)) :
    Trace (first.under older) (past.map (State.under older)) (state.under older) := by
  induction trace with
  | refl => exact .refl
  | issue operation earlier finished ih => exact ih.issue operation finished
  | step earlier stepped ih => exact ih.step (by rw [State.step_under, stepped]; rfl)

theorem rest (trace : Trace first (later ++ visited :: earlier) state)
    (runs : visited.active ≠ none) :
    ∃ next, visited.step = some next ∧ Trace next later state := by
  induction later generalizing state with
  | nil =>
    cases trace with
    | issue operation _ finished => exact absurd (State.mainHasFinished_idle finished) runs
    | step _ stepped => exact ⟨state, stepped, .refl⟩
  | cons last later ih =>
    cases trace with
    | issue operation before finished =>
      obtain ⟨next, stepped, reached⟩ := ih before
      exact ⟨next, stepped, reached.issue operation finished⟩
    | step before steps =>
      obtain ⟨next, stepped, reached⟩ := ih before
      exact ⟨next, stepped, reached.step steps⟩

theorem cons (stepped : first.step = some visited) (trace : Trace visited past state) :
    Trace first (past ++ [first]) state := by
  induction trace with
  | refl => exact Trace.refl.step stepped
  | issue operation earlier finished ih => exact ih.issue operation finished
  | step earlier stepped ih => exact ih.step stepped

end Trace

end Timetable
