import Timetable.Proofs.Machine.Counters
import Timetable.Proofs.Chain.Sound

/-! What is recorded of errors.

An answer records errors of at most one task, and then asks first of all that they be reported. The one
exception is a run that has failed where the end of the run fails in its turn: the failure of the run
is counted, and its report is dropped.
-/

set_option autoImplicit false

namespace Timetable

def Tally.ran (tally : Tally) (runs : Nat) : Tally :=
  { tally with runs := tally.runs + runs }

namespace State

variable {state later : State} {agent : Agent} {number trigger : Nat}

/-! ### Results that count nothing -/

structure Silent (state : State) (result : State × Move) : Prop where
  uncounted : Uncounted state result.1
  mute : result.2.IsMute

theorem Silent.give (uncounted : Uncounted state later) (value : Value) :
    Silent state (later, .give value) :=
  ⟨uncounted, .give _⟩

theorem Silent.fail (uncounted : Uncounted state later) (failure : Failure) :
    Silent state (later, .fail failure) :=
  ⟨uncounted, .fail _⟩

theorem Silent.of_tacit (uncounted : Uncounted state later) {move : Move}
    (tacit : move.IsTacit) : Silent state (later, move) :=
  ⟨uncounted, tacit.isMute⟩

theorem Tame.silent {result : State × Move} (tame : Tame state result) : Silent state result :=
  .of_tacit tame.changes.uncounted tame.tacit

theorem stopGiven_uncounted (callback : Option Callable) (names : List String) :
    Uncounted state
      ((state.callbackOf callback).1.stopNamed (state.callbackOf callback).2 names).1 :=
  (callbackOf_harmless callback).uncounted.trans (stopNamed_uncounted _ names)

theorem dispatch_silent (trigger : Nat) : Silent state (state.dispatch trigger) := by
  unfold dispatch
  dsimp only
  split
  · exact ⟨.refl _, by simp [Move.IsMute, Move.go, Move.frames, Frame.report?]⟩
  · exact ⟨.refl _, by simp [Move.IsMute, Move.go, Move.frames, Frame.report?]⟩
  · exact .give (.tell _ _ _) _

theorem Silent.after {result : State × Move} (uncounted : Uncounted state later)
    (silent : Silent later result) : Silent state result :=
  ⟨uncounted.trans silent.uncounted, silent.mute⟩

theorem awaitDecision_silent (trigger : Nat) (remaining : Int) :
    Silent state (state.awaitDecision trigger remaining) := by
  unfold awaitDecision
  dsimp only
  generalize traced : (if state.setting.tracesWaits = true then _ else state) = prior
  have recorded : Uncounted state prior := by
    rw [← traced]
    split
    · exact .record _ rfl
    · exact .refl _
  split
  · exact .after recorded (dispatch_silent trigger)
  · exact ⟨recorded, by simp [Move.IsMute, Move.frames, Frame.report?]⟩

theorem callbackFrames_mute (number : Nat) (callback : Option Work) (args : List Value) :
    ∀ added ∈ callbackFrames number callback args, added.report? = none := by
  intro added member
  obtain ⟨work, -, rfl⟩ := mem_callbackFrames member
  rfl

/-! ### Results that record errors -/

/-- `Recorded state number result`: errors have been recorded on a task, and the move reports just
these, before it does anything else. -/
inductive Recorded (state : State) (number : Nat) : State × Move → Prop where
  | silent {result : State × Move} : Silent state result → Recorded state number result
  | told {later : State} {others : List Frame} (reports : List Report) :
      Records state later number reports → (∀ added ∈ others, added.report? = none) →
      Recorded state number (later, .go (reports.map .report ++ others))

theorem startChain_recorded (within : number < state.entries.size) (mode : Mode)
    (args : List Value) : Recorded state number (state.startChain number mode args) := by
  have begun : Uncounted state (state.updateEntry number fun entry => entry.begin mode) :=
    .updateEntry _ _ _ fun _ => rfl
  have armed := arm_records (Nat.lt_of_lt_of_le within begun.size) args none
  cases running : (state.entry number).isRunning with
  | true =>
    unfold startChain
    rw [if_pos running]
    exact .silent (.give (.refl _) _)
  | false =>
    rw [startChain_begun running]
    generalize (state.updateEntry number fun entry => entry.begin mode).arm number args none =
      result at armed
    obtain ⟨after, failure | report⟩ := result
    · exact .silent (.fail (begun.trans armed.uncounted) _)
    · simp only [State.begun, reportFrames_eq]
      exact .told _ (.uncounted_trans begun armed) (by simp [Frame.report?])

theorem startNamed_recorded (tidy : state.Tidy) (name : String) (mode : Mode)
    (args : List Value) :
    Silent state (state.startNamed name mode args) ∨ ∃ number, state.find? name = some number ∧
      number < state.entries.size ∧ Recorded state number (state.startNamed name mode args) := by
  unfold startNamed
  cases found : state.find? name with
  | none => exact .inl (.give (.tell _ _ _) _)
  | some number =>
    have within := tidy.range number (find?_mem found).1
    exact .inr ⟨number, rfl, within, startChain_recorded within mode args⟩

def runError? (state : State) (number trigger : Nat) (args : List Value) (work : Work) :
    Signal → Option Report
  | .ok _ => none
  | .error failure =>
    some (runReport (state.entry number).name (state.trigger trigger).due work args failure)

inductive Closing (state : State) (number : Nat) (failed : Option Report) : State × Move → Prop where
  | told {later : State} {others : List Frame} (reports : List Report) :
      Records state later number reports → (∀ added ∈ others, added.report? = none) →
      Closing state number failed (later, .go (reports.map .report ++ others))
  | fails {later : State} (failure : Failure) : Records state later number failed.toList →
      Closing state number failed (later, .fail failure)

theorem goOn_closing {noted : State} {failed : Option Report}
    (within : number < state.entries.size) (records : Records state noted number failed.toList)
    (trigger : Nat) (next : List Value) (due : Option DateTime) :
    Closing state number failed (noted.goOn number trigger next due failed) := by
  unfold goOn
  split
  · have armed := arm_records (Nat.lt_of_lt_of_le within records.size) next due
    generalize noted.arm number next due = result at armed ⊢
    obtain ⟨after, failure | report⟩ := result
    · exact .fails failure (records.trans_uncounted armed.uncounted)
    · dsimp only
      rw [reportFrames_eq, reportFrames_eq, ← List.map_append, ← List.append_nil (List.map _ _)]
      exact .told _ (records.trans armed) fun _ member => absurd member List.not_mem_nil
  · dsimp only
    rw [reportFrames_eq]
    exact .told _ (records.trans_uncounted (endChain_uncounted _ _ _)) (callbackFrames_mute _ _ _)

theorem endRun_closing (within : number < state.entries.size) (trigger : Nat)
    (args : List Value) (mode : Mode) (work : Work) (outcome : Signal) :
    Closing state number (state.runError? number trigger args work outcome)
      (state.endRun number trigger args mode work outcome) := by
  cases outcome with
  | ok value => exact goOn_closing within ((Uncounted.refl state).records number) trigger _ _
  | error failure => exact goOn_closing within (.countError within _) trigger _ _

def ownReport? (state : State) (trigger : Nat) (target : Work) (stage : String)
    (failure : Failure) : Option Report :=
  match (state.trigger trigger).errors with
  | .sink _ => some (triggerReport (state.trigger trigger) target stage failure)
  | .log | .entry _ => none

structure Hands (state : State) (report : Report) (result : State × Move) : Prop where
  tally : ∀ number, (result.1.entry number).tally = (state.entry number).tally
  size : state.entries.size ≤ result.1.entries.size
  handed : result.1.handed = report :: state.handed
  mute : result.2.IsMute

/-- What a failure of a trigger comes to: it goes to the log, to the sink of a trigger that the
program made itself, or is recorded on the task and reported. -/
inductive Complaint (state : State) (trigger : Nat) : Option Report → State × Move → Prop where
  | silent {result : State × Move} : Silent state result → Complaint state trigger none result
  | hands {result : State × Move} (report : Report) : Hands state report result →
      Complaint state trigger (some report) result
  | told {later : State} {others : List Frame} (number : Nat) (report : Report) :
      state.owner trigger = some number → Records state later number [report] →
      (∀ added ∈ others, added.report? = none) →
      Complaint state trigger none (later, .go ([report].map .report ++ others))

theorem abandonChain_records (within : number < state.entries.size) (trigger : Nat)
    (report : Report) :
    Records state (state.abandonChain number trigger report).1 number [report] := by
  unfold abandonChain
  refine .trans_uncounted ?_ (.updateEntry _ _ _ fun _ => rfl)
  split
  · exact .breakOff within report
  · exact .countError within report

theorem complain_complaint
    (known : ∀ number, state.owner trigger = some number → number < state.entries.size)
    (target : Work) (stage : String) (failure : Failure) :
    Complaint state trigger (state.ownReport? trigger target stage failure)
      (state.complain trigger target stage failure) := by
  cases errors : (state.trigger trigger).errors with
  | log =>
    simp only [complain, ownReport?, errors]
    exact .silent (.give (.tell _ _ _) _)
  | sink sink =>
    simp only [complain, ownReport?, errors]
    refine .hands (triggerReport (state.trigger trigger) target stage failure)
      ⟨fun _ => rfl, Nat.le_refl _, rfl, ?_⟩
    simp [Move.IsMute, Move.go, Move.frames, sinkFrames, Frame.report?]
  | entry number =>
    have owned : state.owner trigger = some number := by rw [owner, errors]
    simp only [complain, ownReport?, errors]
    refine .told number (triggerReport (state.trigger trigger) target stage failure) owned
      (abandonChain_records (known number owned) trigger _) fun added member => ?_
    rcases List.mem_append.mp member with member | member
    · exact callbackFrames_mute _ _ _ added member
    · rw [List.mem_singleton.mp member]; rfl

theorem Complaint.after {result : State × Move} {own : Option Report}
    (uncounted : Uncounted state later) (owner : later.owner trigger = state.owner trigger)
    (complaint : Complaint later trigger own result) : Complaint state trigger own result := by
  cases complaint with
  | silent silent => exact .silent (.after uncounted silent)
  | hands report hands =>
    exact .hands report ⟨fun number => (hands.tally number).trans (uncounted.tally number),
      Nat.le_trans uncounted.size hands.size, hands.handed.trans (by rw [uncounted.handed]),
      hands.mute⟩
  | told number report owned records mute =>
    exact .told number report (owner.symm.trans owned) (.uncounted_trans uncounted records) mute

/-- A trigger that is called off as its time cannot be waited for complains like one that was not. -/
theorem cancelled_complaint
    (known : ∀ number, state.owner trigger = some number → number < state.entries.size)
    (target : Work) (stage : String) (failure : Failure) :
    Complaint state trigger (state.ownReport? trigger target stage failure)
      ((state.commit trigger .cancel none).1.complain trigger target stage failure) := by
  have committed := state.commit_uncounted trigger .cancel none
  have kept := state.commit_keeps trigger .cancel none trigger
  have owner := state.owner_commit trigger .cancel none trigger
  generalize (state.commit trigger .cancel none).1 = cancelled at committed kept owner ⊢
  have own : cancelled.ownReport? trigger target stage failure =
      state.ownReport? trigger target stage failure := by
    unfold ownReport?
    rw [kept]
    rfl
  rw [← own]
  refine .after committed owner (complain_complaint (fun number owned => ?_) target stage failure)
  exact Nat.lt_of_lt_of_le (known number (owner.symm.trans owned)) committed.size

/-! ### Answers -/

def blamed? (state : State) : Frame → Option Nat
  | .fired number _ _ _ _ | .calledBack number _ _ => some number
  | .countdown trigger | .waited trigger | .dispatched trigger _ => state.owner trigger
  | .perform (.start name _ _) | .perform (.restart name _) | .call (.resume name _ _) _ =>
    state.find? name
  | _ => none

/-- The error of a failed run that is not reported, since the end of the run fails in its turn. -/
def dropped (state : State) : Signal → Frame → List Report
  | .error failure, .fired number trigger args mode work =>
    if failure.leaves then []
    else
      match (state.endRun number trigger args mode work (.error failure)).2 with
      | .resume _ (.error _) =>
        (state.runError? number trigger args work (.error failure)).toList
      | _ => []
  | _, _ => []

def complaint? (state : State) : Signal → Frame → Option Report
  | .error failure, .dispatched trigger target =>
    if failure.leaves then none else state.ownReport? trigger target "running" failure
  | .ok _, .countdown trigger | .ok _, .waited trigger =>
    match untilDue state.clock (state.trigger trigger).due state.setting.home,
        state.outcome trigger with
    | .error fault, none =>
      state.ownReport? trigger (state.trigger trigger).work "waiting for" fault.failure
    | _, _ => none
  | _, _ => none

def hands? (state : State) : Signal → Frame → Option Report
  | .ok _, .report report => state.setting.sink.map fun _ => report
  | signal, frame => state.complaint? signal frame

def fires (state : State) (number : Nat) : Signal → Frame → Nat
  | .ok _, .call (.fire task _) _ =>
    match state.now with
    | .ok _ => if task = number then 1 else 0
    | .error _ => 0
  | _, _ => 0

inductive Answered (state : State) (signal : Signal) (frame : Frame) : State × Move → Prop where
  /-- No error is recorded. -/
  | quiet {result : State × Move} : result.2.IsMute → state.dropped signal frame = [] →
      (∀ number, (result.1.entry number).tally =
        (state.entry number).tally.ran (state.fires number signal frame)) →
      state.entries.size ≤ result.1.entries.size →
      result.1.handed = (state.hands? signal frame).toList ++ state.handed →
      Answered state signal frame result
  /-- Errors are recorded on a task, and the move reports them. -/
  | told {later : State} {others : List Frame} (number : Nat) (reports : List Report) :
      state.blamed? frame = some number → number < state.entries.size →
      Records state later number reports → (∀ added ∈ others, added.report? = none) →
      state.dropped signal frame = [] → state.hands? signal frame = none →
      (∀ number, state.fires number signal frame = 0) →
      Answered state signal frame (later, .go (reports.map .report ++ others))
  /-- The error of a run is recorded and dropped. -/
  | drops {later : State} (number : Nat) (report : Report) (failure : Failure) :
      state.blamed? frame = some number → number < state.entries.size →
      Records state later number [report] → state.dropped signal frame = [report] →
      state.hands? signal frame = none → (∀ number, state.fires number signal frame = 0) →
      Answered state signal frame (later, .fail failure)

variable {signal : Signal} {frame : Frame}

theorem Silent.answered {result : State × Move} (silent : Silent state result)
    (dropped : state.dropped signal frame = []) (hands : state.hands? signal frame = none)
    (fires : ∀ number, state.fires number signal frame = 0) :
    Answered state signal frame result := by
  refine .quiet silent.mute dropped (fun number => ?_) silent.uncounted.size ?_
  · rw [fires]
    exact silent.uncounted.tally number
  · rw [hands]
    exact silent.uncounted.handed

theorem Recorded.answered {result : State × Move} (recorded : Recorded state number result)
    (blamed : state.blamed? frame = some number) (within : number < state.entries.size)
    (dropped : state.dropped signal frame = []) (hands : state.hands? signal frame = none)
    (fires : ∀ number, state.fires number signal frame = 0) :
    Answered state signal frame result := by
  cases recorded with
  | silent silent => exact silent.answered dropped hands fires
  | told reports records mute =>
    exact .told number reports blamed within records mute dropped hands fires

theorem Complaint.answered {result : State × Move} {own : Option Report}
    (complaint : Complaint state trigger own result)
    (known : ∀ number, state.owner trigger = some number → number < state.entries.size)
    (blamed : state.blamed? frame = state.owner trigger)
    (dropped : state.dropped signal frame = []) (hands : state.hands? signal frame = own)
    (fires : ∀ number, state.fires number signal frame = 0) :
    Answered state signal frame result := by
  cases complaint with
  | silent silent => exact silent.answered dropped hands fires
  | hands report handed =>
    refine .quiet handed.mute dropped (fun number => ?_) handed.size ?_
    · rw [fires]
      exact handed.tally number
    · rw [hands]
      exact handed.handed
  | told number report owned records mute =>
    exact .told number [report] (blamed.trans owned) (known number owned) records mute dropped
      hands fires

theorem call_answered (tidy : state.Tidy) (value : Value) (work : Work) (args : List Value)
    (known : ∀ number trigger, work = .fire number trigger → number < state.entries.size) :
    Answered state (.ok value) (.call work args) (state.call agent work args) := by
  cases work with
  | script id name actions =>
    refine Silent.answered ⟨.trans (.record state rfl) (.of_eq rfl rfl), fun added member => ?_⟩
      rfl rfl fun _ => rfl
    rw [List.mem_singleton.mp member]; rfl
  | library called =>
    have uncounted : Uncounted state (state.callLibrary agent called args).1 := by
      rcases state.callLibrary_state agent called args with same | recorded
      · rw [same]; exact .refl _
      · rw [recorded]; exact .record state rfl
    exact (Silent.of_tacit uncounted (state.callLibrary_tacit agent called args)).answered rfl rfl
      fun _ => rfl
  | plain value => exact (Silent.fail (.refl _) _).answered rfl rfl fun _ => rfl
  | fire number trigger =>
    simp only [call, fire]
    cases now : state.now with
    | error fault =>
      refine (Silent.fail (.refl _) _).answered rfl rfl fun _ => ?_
      simp only [fires, now]
    | ok time =>
      refine .quiet ?_ rfl (fun other => ?_) ?_ rfl
      · simp [Move.IsMute, Move.go, Move.frames, Frame.report?]
      · show ((state.updateEntry number fun entry => entry.noteRun time).entry other).tally = _
        simp only [fires, now]
        rw [entry_updateEntry]
        by_cases same : other = number
        · rw [if_pos ⟨same, known number trigger rfl⟩, if_pos same.symm]
          rfl
        · rw [if_neg fun both => same both.1, if_neg (Ne.symm same)]
          rfl
      · exact Nat.le_of_eq (Store.size_update ..).symm
  | settle number trigger =>
    exact Silent.answered ⟨endChain_uncounted _ _ _, callbackFrames_mute _ _ _⟩ rfl rfl
      fun _ => rfl
  | resume name mode given =>
    rcases startNamed_recorded tidy name mode (if given.isEmpty then args else given) with
      silent | ⟨number, found, within, recorded⟩
    · exact silent.answered rfl rfl fun _ => rfl
    · exact recorded.answered found within rfl rfl fun _ => rfl
  | nothing => exact (Silent.give (.refl _) _).answered rfl rfl fun _ => rfl
  | logPending name => exact (Silent.give (.tell _ _ _) _).answered rfl rfl fun _ => rfl

theorem perform_answered (tidy : state.Tidy) (value : Value) (operation : Operation) :
    Answered state (.ok value) (.perform operation) (state.perform agent operation) := by
  have silently : ∀ {result : State × Move}, Silent state result →
      Answered state (.ok value) (.perform operation) result :=
    fun silent => silent.answered rfl rfl fun _ => rfl
  have performed := state.perform_performed tidy agent operation
  generalize state.perform agent operation = result at performed ⊢
  cases performed with
  | harmless _ tame => exact silently tame.silent
  | unknown => exact silently (.fail (.refl _) _)
  | cancels => exact silently (.give (commit_uncounted _ _ _ _) _)
  | redirects _ fn =>
    have handed := (handOver_harmless state fn).uncounted
    exact silently (.give (handed.trans (commit_uncounted _ _ _ _)) _)
  | removes name => exact silently (.give (removeTask_uncounted state name) _)
  | starts name mode args =>
    rcases startNamed_recorded tidy name mode args with
      silent | ⟨number, found, within, recorded⟩
    · exact silently silent
    · exact recorded.answered found within rfl rfl fun _ => rfl
  | restartsNone => exact silently (.give (.refl _) _)
  | restartsNow name args found _ =>
    have within := tidy.range _ (find?_mem found).1
    exact (startChain_recorded within _ args).answered found within rfl rfl fun _ => rfl
  | restartsLater => exact silently (.give (stopChain_uncounted _ _ _) _)
  | stopsOne name callback => exact silently (.give (stopGiven_uncounted callback _) _)
  | stopsAll callback => exact silently (.give (stopGiven_uncounted callback _) _)
  | shutsDown callback timeout =>
    refine silently ⟨stopGiven_uncounted callback _, fun added member => ?_⟩
    rw [List.mem_singleton.mp member]; rfl

theorem CountsDown.blamed?_eq (counts : frame.CountsDown trigger) :
    state.blamed? frame = state.owner trigger := by
  cases counts <;> rfl

theorem CountsDown.hands?_eq (counts : frame.CountsDown trigger) (value : Value) :
    state.hands? (.ok value) frame =
      match untilDue state.clock (state.trigger trigger).due state.setting.home,
        state.outcome trigger with
      | .error fault, none =>
        state.ownReport? trigger (state.trigger trigger).work "waiting for" fault.failure
      | _, _ => none := by
  cases counts <;> rfl

/-- A frame in which a trigger waits records nothing but that its time cannot be waited for. -/
theorem countdown_answered (linked : Linked state) (value : Value)
    (counts : frame.CountsDown trigger) :
    Answered state (.ok value) frame (state.countdown trigger) := by
  have quiet : state.dropped (.ok value) frame = [] ∧
      ∀ number, state.fires number (.ok value) frame = 0 := by
    cases counts <;> exact ⟨rfl, fun _ => rfl⟩
  have hands : state.hands? (.ok value) frame = _ := CountsDown.hands?_eq counts value
  unfold countdown
  dsimp only
  cases due : untilDue state.clock (state.trigger trigger).due state.setting.home with
  | error fault =>
    rw [due] at hands
    dsimp only
    -- Of a trigger that was decided before, its time is of no account.
    by_cases undecided : state.outcome trigger = none
    · have complaint := cancelled_complaint (linked.range trigger)
        (state.trigger trigger).work "waiting for" fault.failure
      rw [undecided] at hands
      rw [commit_undecided undecided] at complaint ⊢
      exact complaint.answered (linked.range trigger) (CountsDown.blamed?_eq counts) quiet.1
        hands quiet.2
    · rw [commit_decided undecided]
      refine (dispatch_silent trigger).answered quiet.1 ?_ quiet.2
      rw [hands]
      split
      · next same => exact absurd same undecided
      · rfl
  | ok remaining =>
    rw [due] at hands
    dsimp only
    split
    · exact (Silent.after (commit_uncounted _ _ _ _) (dispatch_silent trigger)).answered quiet.1
        hands quiet.2
    · exact (awaitDecision_silent trigger remaining).answered quiet.1 hands quiet.2

theorem fired_answered (within : number < state.entries.size) (args : List Value)
    (mode : Mode) (work : Work) (signal : Signal)
    (mild : ∀ failure, signal = .error failure → failure.leaves = false) :
    Answered state signal (.fired number trigger args mode work)
      (state.endRun number trigger args mode work signal) := by
  have closing := endRun_closing within trigger args mode work signal
  cases signal with
  | ok value =>
    generalize state.endRun number trigger args mode work (.ok value) = result at closing ⊢
    cases closing with
    | told reports records mute =>
      exact .told number reports rfl within records mute rfl rfl fun _ => rfl
    | fails failure records =>
      exact (Silent.fail records.uncounted failure).answered rfl rfl fun _ => rfl
  | error failure =>
    have dropped : state.dropped (.error failure) (.fired number trigger args mode work) =
        match (state.endRun number trigger args mode work (.error failure)).2 with
        | .resume _ (.error _) =>
          (state.runError? number trigger args work (.error failure)).toList
        | _ => [] := if_neg (by rw [mild failure rfl]; rintro ⟨⟩)
    generalize state.endRun number trigger args mode work (.error failure) = result
      at closing dropped ⊢
    cases closing with
    | told reports records mute =>
      exact .told number reports rfl within records mute dropped rfl fun _ => rfl
    | fails other records => exact .drops number _ other rfl within records dropped rfl fun _ => rfl

theorem tellReport_answered (value : Value) (report : Report) :
    Answered state (.ok value) (.report report) (state.tellReport report) := by
  unfold tellReport
  dsimp only
  split
  · next absent =>
    have absent : state.setting.sink = none := absent
    refine (Silent.give (.tell _ _ _) _).answered rfl ?_ fun _ => rfl
    rw [hands?, absent]
    rfl
  · next sink present =>
    have present : state.setting.sink = some sink := present
    refine .quiet ?_ rfl (fun _ => rfl) (Nat.le_refl _) ?_
    · simp [Move.IsMute, Move.go, Move.frames, sinkFrames, Frame.report?]
    · rw [hands?, present]
      rfl

theorem resume_answered (sound : Sound state) {rest : List Frame} {value : Value}
    (active : state.active = some ⟨agent, frame :: rest, .ok value⟩) :
    Answered state (.ok value) frame (state.resume agent value frame) := by
  have fits := sound.fits_active active frame List.mem_cons_self
  have tidy := sound.linked.tidy
  cases frame with
  | countdown trigger => exact countdown_answered sound.linked value (.countdown trigger)
  | waited trigger =>
    have counts := Frame.CountsDown.waited trigger
    unfold resume
    dsimp only
    split
    · next committed =>
      refine (dispatch_silent trigger).answered rfl ?_ fun _ => rfl
      rw [CountsDown.hands?_eq counts]
      split
      · next undecided => exact absurd undecided ((isCommitted_iff _ _).mp committed)
      · rfl
    · exact countdown_answered sound.linked value counts
  | dispatched trigger target => exact (Silent.give (.refl _) _).answered rfl rfl fun _ => rfl
  | sunk text => exact (Silent.give (.refl _) _).answered rfl rfl fun _ => rfl
  | call work args =>
    refine call_answered tidy value work args ?_
    rintro number trigger rfl
    exact sound.linked.range trigger number fits.2.1
  | script name turn args actions =>
    exact (Silent.of_tacit (.refl _) (act_tacit name turn args actions)).answered rfl rfl
      fun _ => rfl
  | woke name => exact (Silent.give (.record _ rfl) _).answered rfl rfl fun _ => rfl
  | perform operation => exact perform_answered tidy value operation
  | inner operation => exact (Silent.give (.record _ rfl) _).answered rfl rfl fun _ => rfl
  | give given => exact (Silent.give (.refl _) _).answered rfl rfl fun _ => rfl
  | fired number trigger args mode work =>
    exact fired_answered (sound.linked.range trigger number fits.2.1) args mode work _
      fun failure same => by cases same
  | report report => exact tellReport_answered value report
  | callback number work args =>
    have silent : Silent state (state.callBack number work args) :=
      ⟨.tell _ _ _, by simp [Move.IsMute, callBack, Move.go, Move.frames, Frame.report?]⟩
    exact silent.answered rfl rfl fun _ => rfl
  | calledBack number work args => exact (Silent.give (.refl _) _).answered rfl rfl fun _ => rfl
  | joining triggers timeout stopped =>
    cases triggers with
    | nil => exact (Silent.give (.tell _ _ _) _).answered rfl rfl fun _ => rfl
    | cons trigger rest =>
      have tacit : (state.join agent trigger timeout [.joining rest timeout stopped]).IsTacit :=
        join_tacit trigger timeout (by simp [Frame.isTacit, Frame.isPlain])
      exact (Silent.of_tacit (.refl _) tacit).answered rfl rfl fun _ => rfl
  | interrupted => exact (Silent.fail (.refl _) _).answered rfl rfl fun _ => rfl

theorem handle_answered (sound : Sound state) {rest : List Frame} {failure : Failure}
    (active : state.active = some ⟨agent, frame :: rest, .error failure⟩)
    (known : ∀ number work args, frame = .calledBack number work args →
      number < state.entries.size) :
    Answered state (.error failure) frame (state.handle failure frame) := by
  have fits := sound.fits_active active frame List.mem_cons_self
  unfold handle
  by_cases leaves : failure.leaves = true
  · have quiet : state.dropped (.error failure) frame = [] ∧
        state.hands? (.error failure) frame = none := by
      cases frame <;> simp [dropped, hands?, complaint?, leaves]
    rw [if_pos leaves]
    split
    · split
      · exact (Silent.fail (.refl _) _).answered quiet.1 quiet.2 fun _ => rfl
      · exact (Silent.give (.record _ rfl) _).answered quiet.1 quiet.2 fun _ => rfl
    · exact (Silent.fail (.refl _) _).answered quiet.1 quiet.2 fun _ => rfl
  · rw [if_neg leaves]
    split
    · next trigger target =>
      refine (complain_complaint (sound.linked.range trigger) target "running" failure).answered
        (sound.linked.range trigger) rfl rfl ?_ fun _ => rfl
      simp [hands?, complaint?, leaves]
    · exact (Silent.give (.tell _ _ _) _).answered rfl rfl fun _ => rfl
    · exact (Silent.give (.record _ rfl) _).answered rfl rfl fun _ => rfl
    · next number trigger args mode work =>
      refine fired_answered (sound.linked.range trigger number fits.2.1) args mode work _ ?_
      rintro other ⟨⟩
      simpa using leaves
    · next number work args =>
      have within := known number work args rfl
      exact .told number [_] rfl within (.countError within _)
        (fun _ member => absurd member List.not_mem_nil) rfl rfl fun _ => rfl
    · next noDispatched noSunk noInner noFired noCalledBack =>
      -- Any other frame is left by the failure, and nothing is recorded.
      refine (Silent.fail (.refl _) _).answered ?_ ?_ fun _ => rfl
      · cases frame <;> first | rfl | exact absurd rfl (noFired _ _ _ _ _)
      · cases frame <;> first | rfl | exact absurd rfl (noDispatched _ _)

theorem Sound.answered (sound : Sound state) {rest : List Frame}
    (active : state.active = some ⟨agent, frame :: rest, signal⟩)
    (known : ∀ number work args, frame = .calledBack number work args →
      number < state.entries.size) :
    Answered state signal frame (state.answer agent signal frame) := by
  cases signal with
  | ok value => exact resume_answered sound active
  | error failure => exact handle_answered sound active known

end State

end Timetable
