import Timetable.Proofs.Machine.Effect

/-! How frames answer.

The replies of frames are listed once, with all that they do to tasks and triggers. What holds along
every run is proved reply by reply.
-/

set_option autoImplicit false

namespace Timetable

/-- Frames that any runner may have: all but those in which triggers and the callbacks of stops are at
work. -/
def Frame.isCommon : Frame → Bool
  | .call work _ => work.isCallback
  | frame => frame.isPlain

theorem Frame.isCommon_of_isPlain {frame : Frame} (plain : frame.isPlain = true) :
    frame.isCommon = true := by
  cases frame <;> first | exact plain | cases plain

def Frame.isRequest : Frame → Bool
  | .perform _ | .call (.resume _ _ _) _ => true
  | _ => false

theorem Frame.isCommon_of_isRequest {frame : Frame} (asked : frame.isRequest = true) :
    frame.isCommon = true := by
  cases frame with
  | perform operation => rfl
  | call work args => cases work <;> first | rfl | cases asked
  | _ => cases asked

inductive Frame.CountsDown : Frame → Nat → Prop where
  | countdown (trigger : Nat) : CountsDown (.countdown trigger) trigger
  | waited (trigger : Nat) : CountsDown (.waited trigger) trigger

def Frame.counting? : Frame → Option Nat
  | .countdown trigger | .waited trigger => some trigger
  | _ => none

theorem Frame.CountsDown.counting? {frame : Frame} {trigger : Nat}
    (counts : frame.CountsDown trigger) : frame.counting? = some trigger := by
  cases counts <;> rfl

theorem Frame.CountsDown.unique {frame : Frame} {one other : Nat} (counts : frame.CountsDown one)
    (countsToo : frame.CountsDown other) : one = other :=
  Option.some.inj (counts.counting?.symm.trans countsToo.counting?)

theorem Frame.CountsDown.uncommon {frame : Frame} {trigger : Nat}
    (counts : frame.CountsDown trigger) : frame.isCommon = false := by
  cases counts <;> rfl

def Frame.looksAt (failure : Failure) : Frame → Bool
  | .dispatched _ _ | .fired _ _ _ _ _ | .calledBack _ _ _ => !failure.leaves
  | _ => false

namespace Move

def signal : Move → Signal
  | .resume _ signal => signal
  | .wait _ _ _ => .ok .null

end Move

def Trigger.target? (trigger : Trigger) : Option Work :=
  match trigger.decision.outcome, trigger.decision.callback with
  | some .proceed, _ => some trigger.work
  | some .redirect, some target => some target
  | _, _ => none

theorem Fault.failure_leaves (fault : Fault) : fault.failure.leaves = false := by
  cases fault <;> rfl

namespace State

def answer (state : State) (agent : Agent) : Signal → Frame → State × Move
  | .ok value, frame => state.resume agent value frame
  | .error failure, frame => state.handle failure frame

/-- `Reply state agent signal frame later move`: a frame that is resumed with a signal leads from
`state` to `later`, and asks for a move. -/
inductive Reply (state : State) (agent : Agent) : Signal → Frame → State → Move → Prop where
  | plain {signal : Signal} {frame : Frame} {later : State} {move : Move} :
      frame.isCommon = true → state.frameDeeds agent signal frame = [] → Unmoved state later →
      move.IsPlain → Reply state agent signal frame later move
  | request {value : Value} {frame : Frame} {later : State} {move : Move} :
      frame.isRequest = true → Effect state (state.frameDeeds agent (.ok value) frame) later →
      move.IsPlain →
      Reply state agent (.ok value) frame later move
  /-- A failure that a frame of a trigger or of a callback does not look at. -/
  | passed {failure : Failure} {frame : Frame} :
      frame.isCommon = false → frame.looksAt failure = false →
      Reply state agent (.error failure) frame state (.fail failure)
  | dispatched {value : Value} (trigger : Nat) (target : Work) :
      Reply state agent (.ok value) (.dispatched trigger target) state (.give .null)
  | calledBack {value : Value} (number : Nat) (work : Work) (args : List Value) :
      Reply state agent (.ok value) (.calledBack number work args) state (.give .null)
  /-- A trigger that is not due goes on waiting. -/
  | waits {value : Value} {frame : Frame} {trigger : Nat} {later : State} (pause : Pause)
      (deadline : Option Instant) : frame.CountsDown trigger → state.outcome trigger = none →
      Unmoved state later →
      (∃ remaining, untilDue state.clock (state.trigger trigger).due state.setting.home =
        .ok remaining) →
      Reply state agent (.ok value) frame later (.wait [.waited trigger] pause deadline)
  /-- A trigger that is due calls its work. -/
  | proceeds {value : Value} {frame : Frame} {trigger : Nat} : frame.CountsDown trigger →
      state.outcome trigger = none →
      (∃ remaining ≤ 0, untilDue state.clock (state.trigger trigger).due state.setting.home =
        .ok remaining) →
      Reply state agent (.ok value) frame (state.commit trigger .proceed none).1
        (.go [.call (state.trigger trigger).work (state.trigger trigger).args,
          .dispatched trigger (state.trigger trigger).work])
  /-- A trigger that was decided does what it was decided to do. -/
  | obeys {value : Value} {frame : Frame} {trigger : Nat} {target : Work} {later : State} :
      frame.CountsDown trigger → (state.trigger trigger).target? = some target →
      Unmoved state later →
      Reply state agent (.ok value) frame later
        (.go [.call target (state.trigger trigger).args, .dispatched trigger target])
  | cancelled {value : Value} {frame : Frame} {trigger : Nat} {later : State} :
      frame.CountsDown trigger → state.outcome trigger ≠ none →
      (state.trigger trigger).target? = none → Unmoved state later →
      Reply state agent (.ok value) frame later (.give .null)
  /-- The time of a trigger cannot be waited for. -/
  | breaks {value : Value} {frame : Frame} {trigger : Nat} (fault : Fault) :
      frame.CountsDown trigger → state.outcome trigger = none →
      untilDue state.clock (state.trigger trigger).due state.setting.home = .error fault →
      Reply state agent (.ok value) frame
        ((state.commit trigger .cancel none).1.complain trigger (state.trigger trigger).work
          "waiting for" fault.failure).1
        ((state.commit trigger .cancel none).1.complain trigger (state.trigger trigger).work
          "waiting for" fault.failure).2
  | complains {failure : Failure} (trigger : Nat) (target : Work) : failure.leaves = false →
      Reply state agent (.error failure) (.dispatched trigger target)
        (state.complain trigger target "running" failure).1
        (state.complain trigger target "running" failure).2
  | fires {value : Value} {number trigger : Nat} {args : List Value} {time : DateTime}
      {later : State} : state.now = .ok time →
      Unmoved (state.updateEntry number fun entry => entry.noteRun time) later →
      Reply state agent (.ok value) (.call (.fire number trigger) args) later
        (.go [.call (state.entry number).work args,
          .fired number trigger args (state.entry number).mode (state.entry number).work])
  /-- A clock that shows no time makes a run fail. -/
  | misfires {value : Value} {fault : Fault} (number trigger : Nat) (args : List Value) :
      state.now = .error fault →
      Reply state agent (.ok value) (.call (.fire number trigger) args) state
        (.fail fault.failure)
  | settles {value : Value} (number trigger : Nat) (args : List Value) :
      Reply state agent (.ok value) (.call (.settle number trigger) args)
        (state.endChain number trigger).1
        (.go (callbackFrames number (state.endChain number trigger).2 args))
  | ran {outcome : Signal} (number trigger : Nat) (args : List Value) (mode : Mode)
      (work : Work) : (∀ failure, outcome = .error failure → failure.leaves = false) →
      Reply state agent outcome (.fired number trigger args mode work)
        (state.endRun number trigger args mode work outcome).1
        (state.endRun number trigger args mode work outcome).2
  | callsBack {value : Value} {later : State} (number : Nat) (work : Work)
      (args : List Value) : Unmoved state later →
      Reply state agent (.ok value) (.callback number work args) later
        (.go [.call work args, .calledBack number work args])
  | regrets {failure : Failure} (number : Nat) (work : Work) (args : List Value)
      (report : Report) : failure.leaves = false →
      Reply state agent (.error failure) (.calledBack number work args)
        (state.countError number report) (.go [.report report])

variable {state : State} {agent : Agent}

theorem dispatch_reply {prior : State} (unmoved : Unmoved state prior) {value : Value}
    {frame : Frame} {trigger : Nat} (counts : frame.CountsDown trigger)
    (decided : state.outcome trigger ≠ none) :
    Reply state agent (.ok value) frame (prior.dispatch trigger).1 (prior.dispatch trigger).2 := by
  unfold dispatch
  rw [unmoved.trigger]
  dsimp only
  split
  · next proceed =>
    have target : (state.trigger trigger).target? = some (state.trigger trigger).work := by
      rw [Trigger.target?, proceed]
    exact .obeys counts target unmoved
  · next work redirect called =>
    have target : (state.trigger trigger).target? = some work := by
      rw [Trigger.target?, redirect, called]
    exact .obeys counts target unmoved
  · next noProceed noRedirect =>
    apply Reply.cancelled counts decided ?_ (unmoved.trans (.tell _ _ _))
    unfold Trigger.target?
    split
    · exact (noProceed ‹_›).elim
    · exact (noRedirect _ ‹_› ‹_›).elim
    · rfl

theorem commit_undecided {trigger : Nat} (undecided : state.outcome trigger = none)
    (decided : Outcome) (callback : Option Work) :
    state.commit trigger decided callback =
      ((state.updateTrigger trigger fun committed =>
        { committed with decision := ⟨some decided, callback⟩ }).wake (.decision trigger), true) := by
  rcases state.commit_decision trigger decided callback with ⟨-, -, taken⟩ | ⟨won, changed, -⟩
  · exact absurd undecided taken
  · exact Prod.ext changed won

theorem commit_decided {trigger : Nat} (taken : state.outcome trigger ≠ none)
    (decided : Outcome) (callback : Option Work) :
    state.commit trigger decided callback = (state, false) := by
  rcases state.commit_decision trigger decided callback with ⟨lost, same, -⟩ | ⟨-, -, undecided⟩
  · exact Prod.ext same lost
  · exact absurd undecided taken

theorem trigger_commit {trigger : Nat} (undecided : state.outcome trigger = none)
    (outcome : Outcome) (callback : Option Work) (other : Nat) :
    (state.commit trigger outcome callback).1.trigger other =
      if other = trigger ∧ trigger < state.triggers.size then
        { state.trigger other with decision := ⟨some outcome, callback⟩ }
      else state.trigger other := by
  rw [commit_undecided undecided]
  exact trigger_updateTrigger state trigger other _

theorem trigger_commit_self {trigger : Nat} (within : trigger < state.triggers.size)
    (undecided : state.outcome trigger = none) (outcome : Outcome) (callback : Option Work) :
    (state.commit trigger outcome callback).1.trigger trigger =
      { state.trigger trigger with decision := ⟨some outcome, callback⟩ } := by
  rw [trigger_commit undecided, if_pos ⟨rfl, within⟩]

theorem isCommitted_iff (state : State) (trigger : Nat) :
    (state.trigger trigger).decision.isCommitted = true ↔ state.outcome trigger ≠ none := by
  unfold Decision.isCommitted State.outcome
  rw [Option.isSome_iff_ne_none]

theorem awaitDecision_reply {value : Value} {frame : Frame} {trigger : Nat}
    (counts : frame.CountsDown trigger) {remaining : Int}
    (left : untilDue state.clock (state.trigger trigger).due state.setting.home = .ok remaining) :
    Reply state agent (.ok value) frame (state.awaitDecision trigger remaining).1
      (state.awaitDecision trigger remaining).2 := by
  unfold awaitDecision
  dsimp only
  generalize traced : (if state.setting.tracesWaits = true then _ else state) = prior
  have unmoved : Unmoved state prior := by
    rw [← traced]
    split
    · exact .record _ _
    · exact .refl _
  have committed := prior.isCommitted_iff trigger
  rw [unmoved.outcome] at committed
  split
  · next decided => exact dispatch_reply unmoved counts (committed.mp decided)
  · next undecided =>
    exact .waits _ _ counts (by simpa using mt committed.mpr undecided) unmoved ⟨remaining, left⟩

theorem countdown_reply {value : Value} {frame : Frame} {trigger : Nat}
    (counts : frame.CountsDown trigger) (within : trigger < state.triggers.size) :
    Reply state agent (.ok value) frame (state.countdown trigger).1
      (state.countdown trigger).2 := by
  unfold countdown
  dsimp only
  split
  · next fault faulty =>
    by_cases undecided : state.outcome trigger = none
    · rw [commit_undecided undecided]
      have breaks := @Reply.breaks state agent value frame trigger fault counts undecided faulty
      rw [commit_undecided undecided] at breaks
      exact breaks
    · rw [commit_decided undecided]
      exact dispatch_reply (.refl _) counts undecided
  · next remaining left =>
    split
    · next past =>
      by_cases undecided : state.outcome trigger = none
      · have proceeded := trigger_commit_self within undecided .proceed none
        have dispatched : (state.commit trigger .proceed none).1.dispatch trigger =
            ((state.commit trigger .proceed none).1,
              .go [.call (state.trigger trigger).work (state.trigger trigger).args,
                .dispatched trigger (state.trigger trigger).work]) := by
          unfold dispatch
          simp only [proceeded]
        rw [dispatched]
        exact .proceeds counts undecided ⟨remaining, past, left⟩
      · rw [commit_decided undecided]
        exact dispatch_reply (.refl _) counts undecided
    · exact awaitDecision_reply counts left

theorem tellReport_move (state : State) (report : Report) :
    Unmoved state (state.tellReport report).1 ∧
      ((state.tellReport report).2 = .give .null ∨
        ∃ turn sink text, (state.tellReport report).2 =
          .go [.script "sink" turn [] sink, .sunk text]) := by
  unfold tellReport
  dsimp only
  split
  · exact ⟨.tell _ _ _, .inl rfl⟩
  · exact ⟨(Unmoved.tell _ _ _).trans ((Unmoved.record _ _).trans (.takeTurn _ _)),
      .inr ⟨_, _, _, rfl⟩⟩

theorem startChain_plain (number : Nat) (mode : Mode) (args : List Value) :
    (state.startChain number mode args).2.IsPlain := by
  unfold startChain
  split
  · exact .give _
  · dsimp only
    split
    · exact .fail _
    · next report _ =>
      cases report <;> simp [Move.IsPlain, Move.go, Move.frames, reportFrames, Frame.isPlain]

theorem startNamed_plain (name : String) (mode : Mode) (args : List Value) :
    (state.startNamed name mode args).2.IsPlain := by
  unfold startNamed
  split
  · exact .give _
  · exact startChain_plain _ mode args

theorem perform_plain (tidy : state.Tidy) (operation : Operation) :
    (state.perform agent operation).2.IsPlain := by
  have performed := state.perform_performed tidy agent operation
  generalize state.perform agent operation = result at performed ⊢
  cases performed with
  | harmless _ tame => exact tame.tacit.isPlain
  | unknown => exact .fail _
  | cancels | redirects | removes | restartsNone | restartsLater | stopsOne | stopsAll =>
    exact .give _
  | starts name mode args => exact startNamed_plain name mode args
  | restartsNow _ args => exact startChain_plain _ _ args
  | shutsDown =>
    exact fun added member => by rw [List.mem_singleton.mp member]; rfl

theorem call_reply {value : Value} (work : Work) (args : List Value) :
    Reply state agent (.ok value) (.call work args) (state.call agent work args).1
      (state.call agent work args).2 := by
  cases work with
  | script id name actions =>
    refine .plain rfl rfl ((Unmoved.record _ _).trans (.takeTurn _ _)) fun added member => ?_
    rw [List.mem_singleton.mp member]; rfl
  | library called =>
    have unmoved : Unmoved state (state.callLibrary agent called args).1 := by
      rcases state.callLibrary_state agent called args with same | recorded
      · rw [same]; exact .refl _
      · rw [recorded]; exact .record _ _
    exact .plain rfl rfl unmoved (state.callLibrary_tacit agent called args).isPlain
  | plain value => exact .plain rfl rfl (.refl _) (.fail _)
  | fire number trigger =>
    show Reply state agent (.ok value) (.call (.fire number trigger) args)
      (state.fire number trigger args).1 (state.fire number trigger args).2
    unfold fire
    cases now : state.now with
    | error fault => exact .misfires number trigger args now
    | ok time => exact .fires now (.tell _ _ _)
  | settle number trigger => exact .settles number trigger args
  | resume name mode given =>
    exact .request rfl (startNamed_effect name mode _) (startNamed_plain name mode _)
  | nothing => exact .plain rfl rfl (.refl _) (.give _)
  | logPending name => exact .plain rfl rfl (.tell _ _ _) (.give _)

theorem resume_reply (tidy : state.Tidy) (value : Value) (frame : Frame)
    (within : ∀ trigger, frame.CountsDown trigger → trigger < state.triggers.size) :
    Reply state agent (.ok value) frame (state.resume agent value frame).1
      (state.resume agent value frame).2 := by
  cases frame with
  | countdown trigger => exact countdown_reply (.countdown trigger) (within _ (.countdown _))
  | waited trigger =>
    have counts := Frame.CountsDown.waited trigger
    unfold resume
    dsimp only
    split
    · next committed => exact dispatch_reply (.refl _) counts ((isCommitted_iff _ _).mp committed)
    · exact countdown_reply counts (within _ counts)
  | dispatched trigger target => exact .dispatched trigger target
  | sunk text => exact .plain rfl rfl (.refl _) (.give _)
  | call work args => exact call_reply work args
  | script name turn args actions =>
    exact .plain rfl rfl (.refl _) (act_tacit name turn args actions).isPlain
  | woke name => exact .plain rfl rfl (.record _ _) (.give _)
  | perform operation =>
    exact .request rfl (perform_effect tidy agent operation) (perform_plain tidy operation)
  | inner operation => exact .plain rfl rfl (.record _ _) (.give _)
  | give given => exact .plain rfl rfl (.refl _) (.give _)
  | fired number trigger args mode work =>
    exact .ran number trigger args mode work fun failure same => by cases same
  | report report =>
    obtain ⟨unmoved, move⟩ := state.tellReport_move report
    refine .plain rfl rfl unmoved ?_
    rcases move with silent | ⟨_, _, _, sunk⟩
    · exact silent ▸ .give _
    · show (state.tellReport report).2.IsPlain
      rw [sunk]
      simp [Move.IsPlain, Move.go, Move.frames, Frame.isPlain]
  | callback number work args => exact .callsBack number work args (.tell _ _ _)
  | calledBack number work args => exact .calledBack number work args
  | joining triggers timeout stopped =>
    cases triggers with
    | nil => exact .plain rfl rfl (.tell _ _ _) (.give _)
    | cons trigger rest =>
      have tacit : (state.join agent trigger timeout [.joining rest timeout stopped]).IsTacit :=
        join_tacit trigger timeout (by simp [Frame.isTacit, Frame.isPlain])
      exact .plain rfl rfl (.refl _) tacit.isPlain
  | interrupted => exact .plain rfl rfl (.refl _) (.fail _)

theorem frameDeeds_error {failure : Failure} {frame : Frame} (unseen : frame.looksAt failure = false) :
    state.frameDeeds agent (.error failure) frame = [] := by
  cases frame <;> first | rfl | skip
  simp only [Frame.looksAt, Bool.not_eq_false'] at unseen
  simp only [frameDeeds, unseen, if_true]

theorem handle_reply (failure : Failure) (frame : Frame) :
    Reply state agent (.error failure) frame (state.handle failure frame).1
      (state.handle failure frame).2 := by
  have passed : ∀ frame : Frame, frame.looksAt failure = false →
      Reply state agent (.error failure) frame state (.fail failure) := by
    intro frame unseen
    by_cases plain : frame.isCommon = true
    · exact .plain plain (frameDeeds_error unseen) (.refl _) (.fail _)
    · exact .passed (by simpa using plain) unseen
  unfold handle
  by_cases leaves : failure.leaves = true
  · have unseen : ∀ frame : Frame, frame.looksAt failure = false := by
      intro frame
      cases frame <;> simp [Frame.looksAt, leaves]
    rw [if_pos leaves]
    split
    · split
      · exact passed _ (unseen _)
      · exact .plain rfl rfl (.record _ _) (.give _)
    · exact passed _ (unseen _)
  · rw [if_neg leaves]
    have mild : failure.leaves = false := by simpa using leaves
    split
    · exact .complains _ _ mild
    · exact .plain rfl rfl (.tell _ _ _) (.give _)
    · exact .plain rfl rfl (.record _ _) (.give _)
    · refine .ran _ _ _ _ _ fun other same => ?_
      cases same
      exact mild
    · exact .regrets _ _ _ _ mild
    · next noDispatched noSunk noInner noFired noCalledBack =>
      apply passed
      cases frame <;> first | rfl | skip
      · exact absurd rfl (noDispatched _ _)
      · exact absurd rfl (noFired _ _ _ _ _)
      · exact absurd rfl (noCalledBack _ _ _)

theorem answer_reply (agent : Agent) (tidy : state.Tidy) (signal : Signal) (frame : Frame)
    (within : ∀ trigger, frame.CountsDown trigger → trigger < state.triggers.size) :
    Reply state agent signal frame (state.answer agent signal frame).1
      (state.answer agent signal frame).2 := by
  cases signal with
  | ok value => exact resume_reply tidy value frame within
  | error failure => exact handle_reply failure frame

/-! ### The frames of a trigger -/

inductive Counted (state : State) (trigger : Nat) : State → Move → Prop where
  | waits {later : State} (pause : Pause) (deadline : Option Instant) :
      state.outcome trigger = none → Unmoved state later →
      (∃ remaining, untilDue state.clock (state.trigger trigger).due state.setting.home =
        .ok remaining) →
      Counted state trigger later (.wait [.waited trigger] pause deadline)
  | proceeds : state.outcome trigger = none →
      (∃ remaining ≤ 0, untilDue state.clock (state.trigger trigger).due state.setting.home =
        .ok remaining) →
      Counted state trigger (state.commit trigger .proceed none).1
        (.go [.call (state.trigger trigger).work (state.trigger trigger).args,
          .dispatched trigger (state.trigger trigger).work])
  | obeys {target : Work} {later : State} : (state.trigger trigger).target? = some target →
      Unmoved state later →
      Counted state trigger later
        (.go [.call target (state.trigger trigger).args, .dispatched trigger target])
  | cancelled {later : State} : state.outcome trigger ≠ none →
      (state.trigger trigger).target? = none → Unmoved state later →
      Counted state trigger later (.give .null)
  | breaks (fault : Fault) : state.outcome trigger = none →
      untilDue state.clock (state.trigger trigger).due state.setting.home = .error fault →
      Counted state trigger
        ((state.commit trigger .cancel none).1.complain trigger (state.trigger trigger).work
          "waiting for" fault.failure).1
        ((state.commit trigger .cancel none).1.complain trigger (state.trigger trigger).work
          "waiting for" fault.failure).2

section Frames

variable {later : State} {value : Value} {signal : Signal} {move : Move} {number trigger : Nat}
  {args : List Value}

theorem Reply.counted {frame : Frame} (reply : Reply state agent (.ok value) frame later move)
    (counts : frame.CountsDown trigger) : Counted state trigger later move := by
  cases reply with
  | waits pause deadline others undecided unmoved left =>
    obtain rfl := counts.unique others
    exact .waits pause deadline undecided unmoved left
  | proceeds others undecided left =>
    obtain rfl := counts.unique others
    exact .proceeds undecided left
  | obeys others found unmoved =>
    obtain rfl := counts.unique others
    exact .obeys found unmoved
  | cancelled others decided absent unmoved =>
    obtain rfl := counts.unique others
    exact .cancelled decided absent unmoved
  | breaks fault others undecided faulty =>
    obtain rfl := counts.unique others
    exact .breaks fault undecided faulty
  | plain common =>
    rw [counts.uncommon] at common
    cases common
  | request asked =>
    have common := Frame.isCommon_of_isRequest asked
    rw [counts.uncommon] at common
    cases common
  | _ => cases counts

theorem Reply.of_fire
    (reply : Reply state agent (.ok value) (.call (.fire number trigger) args) later move) :
    (∃ fault, state.now = .error fault ∧ later = state ∧ move = .fail fault.failure) ∨
      ∃ time, state.now = .ok time ∧
        Unmoved (state.updateEntry number fun entry => entry.noteRun time) later ∧
        move = .go [.call (state.entry number).work args,
          .fired number trigger args (state.entry number).mode (state.entry number).work] := by
  cases reply with
  | fires shown unmoved => exact .inr ⟨_, shown, unmoved, rfl⟩
  | misfires _ _ _ faulty => exact .inl ⟨_, faulty, rfl, rfl⟩
  | plain common => cases common
  | request asked => cases asked
  | waits _ _ counts | proceeds counts | obeys counts | cancelled counts | breaks _ counts =>
    cases counts

theorem Reply.of_settle
    (reply : Reply state agent (.ok value) (.call (.settle number trigger) args) later move) :
    later = (state.endChain number trigger).1 ∧
      move = .go (callbackFrames number (state.endChain number trigger).2 args) := by
  cases reply with
  | settles => exact ⟨rfl, rfl⟩
  | plain common => cases common
  | request asked => cases asked
  | waits _ _ counts | proceeds counts | obeys counts | cancelled counts | breaks _ counts =>
    cases counts

theorem Reply.of_fired {mode : Mode} {work : Work}
    (reply : Reply state agent signal (.fired number trigger args mode work) later move) :
    (∃ failure, signal = .error failure ∧ failure.leaves = true ∧ later = state ∧
        move = .fail failure) ∨
      (later, move) = state.endRun number trigger args mode work signal := by
  cases reply with
  | ran => exact .inr rfl
  | @passed failure _ _ unseen =>
    have leaves : failure.leaves = true := by simpa [Frame.looksAt] using unseen
    exact .inl ⟨failure, rfl, leaves, rfl, rfl⟩
  | plain common => cases common
  | request asked => cases asked
  | waits _ _ counts | proceeds counts | obeys counts | cancelled counts | breaks _ counts =>
    cases counts

/-- What a trigger has called comes to its end: a failure is complained of, unless it asks to leave. -/
theorem Reply.of_dispatched {target : Work}
    (reply : Reply state agent signal (.dispatched trigger target) later move) :
    (∃ value, signal = .ok value ∧ later = state ∧ move = .give .null) ∨
      ∃ failure, signal = .error failure ∧
        (failure.leaves = true ∧ later = state ∧ move = .fail failure ∨
          failure.leaves = false ∧
            (later, move) = state.complain trigger target "running" failure) := by
  cases reply with
  | dispatched => exact .inl ⟨_, rfl, rfl, rfl⟩
  | complains _ _ mild => exact .inr ⟨_, rfl, .inr ⟨mild, rfl⟩⟩
  | @passed failure _ _ unseen =>
    have leaves : failure.leaves = true := by simpa [Frame.looksAt] using unseen
    exact .inr ⟨failure, rfl, .inl ⟨leaves, rfl, rfl⟩⟩
  | plain common => cases common
  | request asked => cases asked
  | waits _ _ counts | proceeds counts | obeys counts | cancelled counts | breaks _ counts =>
    cases counts

theorem Reply.of_callback {work : Work}
    (reply : Reply state agent (.ok value) (.callback number work args) later move) :
    Unmoved state later ∧ move = .go [.call work args, .calledBack number work args] := by
  cases reply with
  | callsBack _ _ _ unmoved => exact ⟨unmoved, rfl⟩
  | plain common => cases common
  | request asked => cases asked
  | waits _ _ counts | proceeds counts | obeys counts | cancelled counts | breaks _ counts =>
    cases counts

end Frames

end State

end Timetable
