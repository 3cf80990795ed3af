import Timetable.Proofs.Chain.Sound

/-! How triggers come to be decided.

A step may try any number of commitments on the decision of a trigger. Along a session the first one
counts, and no other changes anything. What a trigger was made with does not change at all.
-/

set_option autoImplicit false

namespace Timetable

/-- A commitment that is tried on a decision, and whether it is told to count. -/
structure Commitment where
  outcome : Outcome
  callback : Option Work
  counted : Bool

/-- `Decides before tried after`: the commitments, tried one after the other, lead from one decision to
another. -/
structure Decides (before : Decision Work) (tried : List Commitment) (after : Decision Work) :
    Prop where
  taken : before.outcome ≠ none → after = before ∧ ∀ later ∈ tried, later.counted = false
  undecided : before.outcome = none → tried = [] ∧ after = before ∨ ∃ first others,
    tried = first :: others ∧ first.counted = true ∧
      (∀ later ∈ others, later.counted = false) ∧ after = ⟨some first.outcome, first.callback⟩

namespace Decides

variable {before middle after : Decision Work} {first second : List Commitment}

theorem refl (decision : Decision Work) : Decides decision [] decision :=
  ⟨fun _ => ⟨rfl, fun _ member => absurd member List.not_mem_nil⟩, fun _ => .inl ⟨rfl, rfl⟩⟩

theorem of_eq (same : after = before) : Decides before [] after :=
  same ▸ refl before

theorem trans (earlier : Decides before first middle) (later : Decides middle second after) :
    Decides before (first ++ second) after where
  taken decided := by
    obtain ⟨same, ignored⟩ := earlier.taken decided
    obtain ⟨still, ignoredToo⟩ := later.taken (same ▸ decided)
    exact ⟨still.trans same, fun tried member =>
      (List.mem_append.mp member).elim (ignored tried) (ignoredToo tried)⟩
  undecided undecided := by
    rcases earlier.undecided undecided with ⟨rfl, same⟩ | ⟨counted, others, rfl, counts, ignored, set⟩
    · rw [← same]
      exact later.undecided (same ▸ undecided)
    · obtain ⟨same, ignoredToo⟩ := later.taken (by rw [set]; rintro ⟨⟩)
      exact .inr ⟨counted, others ++ second, rfl, counts, fun tried member =>
        (List.mem_append.mp member).elim (ignored tried) (ignoredToo tried), same.trans set⟩

end Decides

/-- What two triggers were made with is the same. -/
structure Trigger.Alike (one other : Trigger) : Prop where
  due : other.due = one.due
  work : other.work = one.work
  args : other.args = one.args
  errors : other.errors = one.errors
  name : other.name = one.name

theorem Trigger.Alike.refl (trigger : Trigger) : trigger.Alike trigger :=
  ⟨rfl, rfl, rfl, rfl, rfl⟩

theorem Trigger.Alike.trans {one other another : Trigger} (first : one.Alike other)
    (second : other.Alike another) : one.Alike another :=
  ⟨second.due.trans first.due, second.work.trans first.work, second.args.trans first.args,
    second.errors.trans first.errors, second.name.trans first.name⟩

namespace State

/-! ### Commitments that are tried -/

/-- A commitment with what the program is told of it. -/
def attempt (state : State) (trigger : Nat) (outcome : Outcome) (callback : Option Work) :
    Commitment :=
  ⟨outcome, callback, (state.commit trigger outcome callback).2⟩

theorem attempt_updateEntry (state : State) (number trigger : Nat) (change : Entry → Entry)
    (outcome : Outcome) (callback : Option Work) :
    (state.updateEntry number change).attempt trigger outcome callback =
      state.attempt trigger outcome callback := by
  by_cases undecided : state.outcome trigger = none
  · rw [attempt, attempt, commit_undecided undecided,
      commit_undecided (show (state.updateEntry number change).outcome trigger = none from undecided)]
  · rw [attempt, attempt, commit_decided undecided,
      commit_decided (show (state.updateEntry number change).outcome trigger ≠ none from undecided)]

def stopAttempts (state : State) (trigger number : Nat) : List Commitment :=
  match state.stoppable? number with
  | some held =>
    if held = trigger then [state.attempt trigger .redirect (some (.settle number trigger))] else []
  | none => []

def stopAllAttempts (state : State) (trigger : Nat) (callback : Work) :
    List String → List Commitment
  | [] => []
  | name :: rest =>
    match state.find? name with
    | none => state.stopAllAttempts trigger callback rest
    | some number => state.stopAttempts trigger number ++
        (state.stopChain number callback).1.stopAllAttempts trigger callback rest

def operationAttempts (state : State) (trigger : Nat) : Operation → List Commitment
  | .cancel id =>
    if state.labelled? id = some trigger then [state.attempt trigger .cancel none] else []
  | .redirect id fn =>
    if state.labelled? id = some trigger then
      [(state.handOver fn).1.attempt trigger .redirect (some (state.handOver fn).2)]
    else []
  | .restart name _ =>
    match state.find? name with
    | none => []
    | some number => state.stopAttempts trigger number
  | .stop (some name) callback =>
    (state.callbackOf callback).1.stopAllAttempts trigger (state.callbackOf callback).2 [name]
  | .stop none callback | .shutdown callback _ =>
    (state.callbackOf callback).1.stopAllAttempts trigger (state.callbackOf callback).2
      (state.callbackOf callback).1.names
  | _ => []

/-- A trigger commits itself to proceed once it is due, and cancels itself where it cannot wait. -/
def countdownAttempts (state : State) (trigger : Nat) : List Commitment :=
  match untilDue state.clock (state.trigger trigger).due state.setting.home with
  | .error _ => [state.attempt trigger .cancel none]
  | .ok remaining => if remaining ≤ 0 then [state.attempt trigger .proceed none] else []

def frameAttempts (state : State) (trigger : Nat) : Signal → Frame → List Commitment
  | .ok _, .perform operation => state.operationAttempts trigger operation
  | .ok _, .countdown counting =>
    if counting = trigger then state.countdownAttempts trigger else []
  | .ok _, .waited counting =>
    if counting = trigger ∧ (state.trigger trigger).decision.isCommitted = false then
      state.countdownAttempts trigger
    else []
  | _, _ => []

def attempts (state : State) (trigger : Nat) : List Commitment :=
  match state.active with
  | some ⟨_, frame :: _, signal⟩ => state.frameAttempts trigger signal frame
  | _ => []

def tried (trigger : Nat) (past : List State) : List Commitment :=
  past.reverse.flatMap fun state => state.attempts trigger

theorem tried_cons (trigger : Nat) (past : List State) (state : State) :
    tried trigger (state :: past) = tried trigger past ++ state.attempts trigger := by
  simp [tried]

/-- `Tries trigger state attempts later`: nothing becomes of a trigger from `state` to `later` but that
its thread goes on and that commitments are tried. -/
structure Tries (trigger : Nat) (state : State) (attempts : List Commitment) (later : State) :
    Prop where
  within : trigger < state.triggers.size → trigger < later.triggers.size
  alike : trigger < state.triggers.size →
    (state.trigger trigger).Alike (later.trigger trigger)
  decides : Decides (state.trigger trigger).decision attempts (later.trigger trigger).decision

variable {trigger number : Nat} {state middle later : State}

namespace Tries

variable {first second : List Commitment}

theorem of_triggers (same : later.triggers = state.triggers) : Tries trigger state [] later := by
  have trigger_eq : later.trigger trigger = state.trigger trigger := by
    rw [State.trigger, same]; rfl
  exact ⟨fun within => same ▸ within, fun _ => trigger_eq ▸ .refl _,
    .of_eq (congrArg Trigger.decision trigger_eq)⟩

theorem refl (trigger : Nat) (state : State) : Tries trigger state [] state :=
  of_triggers rfl

theorem trans (earlier : Tries trigger state first middle)
    (after : Tries trigger middle second later) :
    Tries trigger state (first ++ second) later where
  within below := after.within (earlier.within below)
  alike below := (earlier.alike below).trans (after.alike (earlier.within below))
  decides := earlier.decides.trans after.decides

theorem after (earlier : Tries trigger state [] middle)
    (after : Tries trigger middle second later) : Tries trigger state second later :=
  earlier.trans after

theorem before (earlier : Tries trigger state first middle)
    (after : Tries trigger middle [] later) : Tries trigger state first later :=
  List.append_nil first ▸ earlier.trans after

end Tries

theorem Tries.updateEntry (state : State) (number : Nat) (change : Entry → Entry) :
    Tries trigger state [] (state.updateEntry number change) :=
  .of_triggers rfl

theorem Unmoved.tries (unmoved : Unmoved state later) : Tries trigger state [] later :=
  .of_triggers unmoved.triggers

theorem Tries.updateTrigger (state : State) (other : Nat) (change : Trigger → Trigger)
    (alike : ∀ changed : Trigger, changed.Alike (change changed))
    (decision : ∀ changed, (change changed).decision = changed.decision) :
    Tries trigger state [] (state.updateTrigger other change) := by
  refine ⟨fun below => Nat.lt_of_lt_of_eq below (Store.size_update ..).symm, fun _ => ?_, .of_eq ?_⟩
  · rw [trigger_updateTrigger]; split
    · exact alike _
    · exact .refl _
  · rw [trigger_updateTrigger]; split
    · exact decision _
    · rfl

theorem Tries.makeTrigger (state : State) (due : Option DateTime) (work : Work)
    (args : List Value) (errors : ErrorTarget) (name : String) :
    Tries trigger state [] (state.makeTrigger due work args errors name) := by
  obtain ⟨given, made⟩ := state.trigger_makeTrigger due work args errors name
  have size : (state.makeTrigger due work args errors name).triggers.size =
      state.triggers.size + 1 := Store.size_add ..
  refine ⟨fun below => by omega, fun below => ?_, .of_eq ?_⟩
  · rw [made, if_neg (Nat.ne_of_lt below)]; exact .refl _
  · rw [made]; split
    -- The decision of a trigger that did not exist counted as undecided too.
    · next new => rw [new, state.trigger_of_le (Nat.le_refl _)]; rfl
    · rfl

theorem Tries.startThread (state : State) (other : Nat) :
    Tries trigger state [] (state.startThread other).1 := by
  have begun : Tries trigger state [] (state.updateTrigger other fun trigger =>
      { trigger with begun := true }) :=
    .updateTrigger _ _ _ (fun _ => ⟨rfl, rfl, rfl, rfl, rfl⟩) fun _ => rfl
  unfold State.startThread
  dsimp only
  split
  · exact begun.after (.of_triggers rfl)
  · refine begun.after (Tries.after (.updateTrigger _ other (fun started =>
      { started with thread := .suspended [.countdown other] })
      (fun _ => ⟨rfl, rfl, rfl, rfl, rfl⟩) fun _ => rfl) (.of_triggers rfl))
  · exact begun

theorem Tries.commit (within : trigger < state.triggers.size) (outcome : Outcome)
    (callback : Option Work) :
    Tries trigger state [state.attempt trigger outcome callback]
      (state.commit trigger outcome callback).1 := by
  by_cases undecided : state.outcome trigger = none
  · have changed := trigger_commit_self within undecided outcome callback
    have counts : state.attempt trigger outcome callback = ⟨outcome, callback, true⟩ := by
      rw [attempt, commit_undecided undecided]
    refine ⟨fun _ => ?_, fun _ => ?_, fun decided => absurd undecided decided, fun _ => ?_⟩
    · rw [commit_undecided undecided]
      exact Nat.lt_of_lt_of_eq within (Store.size_update ..).symm
    · rw [changed]; exact ⟨rfl, rfl, rfl, rfl, rfl⟩
    · rw [changed, counts]
      exact .inr ⟨_, [], rfl, rfl, fun _ member => absurd member List.not_mem_nil, rfl⟩
  · have ignored : state.attempt trigger outcome callback = ⟨outcome, callback, false⟩ := by
      rw [attempt, commit_decided undecided]
    rw [commit_decided undecided, ignored]
    refine ⟨id, fun _ => .refl _, fun _ => ⟨rfl, fun later member => ?_⟩, fun none =>
      absurd none undecided⟩
    rw [List.mem_singleton.mp member]

theorem Tries.commit_other {other : Nat} (different : trigger ≠ other) (outcome : Outcome)
    (callback : Option Work) :
    Tries trigger state [] (state.commit other outcome callback).1 := by
  by_cases undecided : state.outcome other = none
  · have same : (state.commit other outcome callback).1.trigger trigger =
        state.trigger trigger := by
      rw [trigger_commit undecided, if_neg fun both => different both.1]
    refine ⟨fun below => ?_, fun _ => same ▸ .refl _, .of_eq (congrArg Trigger.decision same)⟩
    rw [commit_undecided undecided]
    exact Nat.lt_of_lt_of_eq below (Store.size_update ..).symm
  · rw [commit_decided undecided]; exact .refl _ _

theorem Tries.commit_of_within {other : Nat} (within : other < state.triggers.size)
    (outcome : Outcome) (callback : Option Work) :
    Tries trigger state (if other = trigger then [state.attempt trigger outcome callback] else [])
      (state.commit other outcome callback).1 := by
  split
  · next mine =>
    subst mine
    exact .commit within outcome callback
  · next different => exact .commit_other (Ne.symm different) outcome callback

/-! ### Chains of tasks -/

theorem Spawned.tries {args : List Value} {due : DateTime} {thread : Thread}
    (spawned : Spawned state later number args due thread) : Tries trigger state [] later := by
  obtain ⟨name, made⟩ := spawned.new
  have size := spawned.size
  refine ⟨fun below => by omega, fun below => ?_, .of_eq ?_⟩
  · rw [spawned.old trigger (Nat.ne_of_lt below)]; exact .refl _
  · by_cases new : trigger = state.triggers.size
    · rw [new, made, state.trigger_of_le (Nat.le_refl _)]; rfl
    · rw [spawned.old trigger new]

theorem Arming.tries {args : List Value} {result : Except Failure (Option Report)}
    (arming : Arming state number args later result) : Tries trigger state [] later := by
  cases arming with
  | blind => exact .refl _ _
  | left unmoved => exact unmoved.tries
  | unplanned report unmoved => exact unmoved.tries.after (.of_triggers rfl)
  | unstarted report unmoved spawned =>
    exact (unmoved.tries.after spawned.tries).after (.of_triggers rfl)
  | armed planned spawned armed =>
    exact ((planned.tries.after spawned.tries).after (.updateEntry _ _ _)).after armed.tries

theorem startChain_tries (state : State) (number : Nat) (mode : Mode) (args : List Value) :
    Tries trigger state [] (state.startChain number mode args).1 := by
  by_cases running : (state.entry number).isRunning = true
  · unfold startChain
    rw [if_pos running]
    exact .refl _ _
  · obtain ⟨result, arming⟩ := startChain_arming mode args (by simpa using running)
    exact Tries.after (.updateEntry _ _ _) arming.tries

theorem startNamed_tries (state : State) (name : String) (mode : Mode) (args : List Value) :
    Tries trigger state [] (state.startNamed name mode args).1 := by
  unfold startNamed
  split
  · exact (Unmoved.tell _ _ _).tries
  · exact startChain_tries _ _ _ _

theorem stopChain_tries (linked : Linked state) (number : Nat) (callback : Work) :
    Tries trigger state (state.stopAttempts trigger number)
      (state.stopChain number callback).1 := by
  unfold stopAttempts
  cases found : state.stoppable? number with
  | none => rw [stopChain_none found]; exact .refl _ _
  | some held =>
    obtain ⟨running, holds⟩ := stoppable?_some found
    have stopped : Tries trigger state []
        (state.updateEntry number fun entry => entry.stop held callback) := .updateEntry _ _ _
    rw [stopChain_eq running holds]
    -- The entry is changed before the commitment, which finds the trigger as it was.
    refine stopped.after (Tries.before ?_ (Unmoved.tell _ _ _).tries)
    dsimp only
    split
    · next mine =>
      subst mine
      have within : held < (state.updateEntry number fun entry =>
          entry.stop held callback).triggers.size :=
        Local.within_of_owner ((linked.tasks number).held held holds).1
      have tried := Tries.commit within .redirect (some (.settle number held))
      rwa [attempt_updateEntry] at tried
    · next other => exact .commit_other (Ne.symm other) _ _

theorem stopNamed_tries (linked : Linked state) {callback : Work}
    (called : callback.isCallback = true) (names : List String) :
    Tries trigger state (state.stopAllAttempts trigger callback names)
      (state.stopNamed callback names).1 := by
  induction names generalizing state with
  | nil => exact .refl _ _
  | cons name rest ih =>
    unfold stopAllAttempts stopNamed
    cases state.find? name with
    | none => exact ih linked
    | some number =>
      have stopped := linked.effect (stopChain_effect called number)
      exact (stopChain_tries linked number callback).trans (ih stopped)

/-! ### Operations -/

theorem addTask_triggers (state : State) (name : String) (rule : Rule) (work : Work) :
    (state.addTask name rule work).1.triggers = state.triggers := by
  unfold addTask
  split <;> rfl

theorem Harmless.tries (harmless : Harmless state later) : Tries trigger state [] later := by
  cases harmless with
  | aside unmoved => exact unmoved.tries
  | make due args name => exact .makeTrigger state due _ args _ name
  | startThread => exact .startThread state _
  | addTask name rule => exact .of_triggers (addTask_triggers state name rule _)
  | label | updateRule | updateWork => exact .of_triggers rfl

theorem HarmlessRun.tries (changes : HarmlessRun state later) :
    Tries trigger state [] later := by
  induction changes with
  | refl => exact .refl _ _
  | tail _ harmless ih => exact ih.after harmless.tries

theorem stopGiven_tries (linked : Linked state) (callback : Option Callable)
    (names : List String) :
    Tries trigger state
      ((state.callbackOf callback).1.stopAllAttempts trigger (state.callbackOf callback).2 names)
      ((state.callbackOf callback).1.stopNamed (state.callbackOf callback).2 names).1 :=
  (callbackOf_harmless callback).tries.after
    (stopNamed_tries (linked.neutral (callbackOf_neutral callback))
      (Work.isCallback_of_isGiven (callbackOf_given callback)) names)

theorem removeTask_triggers (state : State) (name : String) :
    (state.removeTask name).1.triggers = state.triggers := by
  unfold removeTask
  split
  · rfl
  · split <;> rfl

theorem perform_tries (linked : Linked state) (agent : Agent) (operation : Operation) :
    Tries trigger state (state.operationAttempts trigger operation)
      (state.perform agent operation).1 := by
  have performed := state.perform_performed linked.tidy agent operation
  generalize state.perform agent operation = result at performed ⊢
  cases performed with
  | harmless harmless tame =>
    have nothing : state.operationAttempts trigger operation = [] := by
      cases operation <;> first | rfl | cases harmless
    rw [nothing]
    exact tame.changes.tries
  | unknown id asked missing =>
    have nothing : state.operationAttempts trigger operation = [] := by
      rcases asked with rfl | ⟨fn, rfl⟩ <;> exact if_neg (by rw [missing]; rintro ⟨⟩)
    rw [nothing]
    exact .refl _ _
  | cancels id found =>
    simp only [operationAttempts, found, Option.some.injEq]
    exact .commit_of_within (labelled?_within linked.tidy found) _ _
  | redirects id fn found =>
    have handed : Tries trigger state [] (state.handOver fn).1 :=
      (handOver_harmless state fn).tries
    have within := (handOver_harmless state fn).neutral.triggers
    simp only [operationAttempts, found, Option.some.injEq]
    exact handed.after (.commit_of_within
      (Nat.lt_of_lt_of_le (labelled?_within linked.tidy found) within) _ _)
  | removes name => exact .of_triggers (removeTask_triggers _ _)
  | starts name mode args => exact startNamed_tries _ _ _ _
  | restartsNone name args missing =>
    simp only [operationAttempts, missing]
    exact .refl _ _
  | restartsNow name args found absent =>
    simp only [operationAttempts, found, stopAttempts, absent]
    exact startChain_tries _ _ _ _
  | restartsLater name args found =>
    simp only [operationAttempts, found]
    exact stopChain_tries linked _ _
  | stopsOne name callback => exact stopGiven_tries linked callback [name]
  | stopsAll callback =>
    exact stopGiven_tries linked callback (state.callbackOf callback).1.names
  | shutsDown callback timeout =>
    exact stopGiven_tries linked callback (state.callbackOf callback).1.names

/-! ### Steps -/

theorem complain_triggers (state : State) (trigger : Nat) (target : Work) (stage : String)
    (failure : Failure) :
    (state.complain trigger target stage failure).1.triggers = state.triggers := by
  rcases state.complain_state trigger target stage failure with unmoved | ⟨number, report, same⟩
  · exact unmoved.triggers
  · rw [same]
    unfold abandonChain
    dsimp only
    split <;> rfl

theorem dispatch_triggers (state : State) (trigger : Nat) :
    (state.dispatch trigger).1.triggers = state.triggers := by
  unfold dispatch
  dsimp only
  split <;> rfl

theorem awaitDecision_triggers (state : State) (trigger : Nat) (remaining : Int) :
    (state.awaitDecision trigger remaining).1.triggers = state.triggers := by
  unfold awaitDecision
  dsimp only
  generalize traced : (if state.setting.tracesWaits = true then _ else state) = prior
  have same : prior.triggers = state.triggers := by
    rw [← traced]
    split <;> rfl
  split
  · rw [dispatch_triggers, same]
  · exact same

theorem countdown_tries {counting : Nat} (within : counting < state.triggers.size) :
    Tries trigger state (if counting = trigger then state.countdownAttempts trigger else [])
      (state.countdown counting).1 := by
  -- The attempts, by what becomes of the wait first and by whose wait it is then.
  have attempts : (if counting = trigger then state.countdownAttempts trigger else []) =
      match untilDue state.clock (state.trigger counting).due state.setting.home with
      | .error _ => if counting = trigger then [state.attempt trigger .cancel none] else []
      | .ok remaining => if remaining ≤ 0 then
          if counting = trigger then [state.attempt trigger .proceed none] else []
        else [] := by
    by_cases mine : counting = trigger
    · subst mine
      simp only [countdownAttempts, if_pos]
    · simp only [if_neg mine, ite_self]
      split <;> rfl
  rw [attempts]
  unfold countdown
  dsimp only
  cases untilDue state.clock (state.trigger counting).due state.setting.home with
  | error fault =>
    refine Tries.before (.commit_of_within within _ _) (.of_triggers ?_)
    dsimp only
    split
    · next eq => rw [eq, complain_triggers]
    · next eq => rw [eq, dispatch_triggers]
  | ok remaining =>
    dsimp only
    split
    · exact Tries.before (.commit_of_within within _ _) (.of_triggers (dispatch_triggers _ _))
    · exact .of_triggers (awaitDecision_triggers _ _ _)

theorem Ending.tries {armed : Nat} {args : List Value} {mode : Mode} {outcome : Signal}
    {move : Move} (ending : Ending state number armed args mode outcome later move) :
    Tries trigger state [] later := by
  have counted : ∀ {noted : State}, Noted number state noted → Tries trigger state [] noted := by
    rintro noted (rfl | ⟨report, rfl⟩)
    · exact .refl _ _
    · exact .updateEntry _ _ _
  cases ending with
  | goesOn noted _ _ arming => exact (counted noted).after arming.tries
  | finished reports noted => exact (counted noted).after (.updateEntry _ _ _)

variable {agent : Agent}

/-- Nothing is tried but by operations, by countdowns and by starts. -/
theorem Reply.tries {signal : Signal} {frame : Frame} {move : Move}
    (reply : Reply state agent signal frame later move)
    (quiet : ∀ value, signal = .ok value →
      frame.isRequest = false ∧ ∀ counting, ¬ frame.CountsDown counting) :
    Tries trigger state [] later := by
  cases reply with
  | plain _ _ unmoved => exact unmoved.tries
  | request asked => rw [(quiet _ rfl).1] at asked; cases asked
  | passed => exact .refl _ _
  | dispatched => exact .refl _ _
  | calledBack => exact .refl _ _
  | waits _ _ counts | proceeds counts | obeys counts | cancelled counts | breaks _ counts =>
    exact absurd counts ((quiet _ rfl).2 _)
  | complains => exact .of_triggers (complain_triggers _ _ _ _ _)
  | fires _ unmoved => exact Tries.after (.updateEntry _ _ _) unmoved.tries
  | misfires => exact .refl _ _
  | settles => exact .updateEntry _ _ _
  | ran => exact (endRun_ending _ _ _ _ _ _ _).tries
  | callsBack _ _ _ unmoved => exact unmoved.tries
  | regrets => exact .updateEntry _ _ _

/-- What a frame does to the decision of a trigger is what it tries. -/
theorem Sound.answer_tries (sound : Sound state) {frame : Frame} {rest : List Frame}
    {signal : Signal} (active : state.active = some ⟨agent, frame :: rest, signal⟩) :
    Tries trigger state (state.frameAttempts trigger signal frame)
      (state.answer agent signal frame).1 := by
  have reply := (sound.replied active).reply
  have within := fun counting (counts : frame.CountsDown counting) =>
    CountsDown.within sound active counts
  cases signal with
  | error failure =>
    have nothing : state.frameAttempts trigger (.error failure) frame = [] := by
      cases frame <;> rfl
    rw [nothing]
    exact reply.tries fun _ same => by cases same
  | ok value =>
    cases frame with
    | perform operation => exact perform_tries sound.linked agent operation
    | countdown counting => exact countdown_tries (within counting (.countdown counting))
    | waited counting =>
      simp only [frameAttempts, answer, resume]
      -- A trigger that was decided while it waited tries nothing more.
      by_cases decided : (state.trigger counting).decision.isCommitted = true
      · rw [if_pos decided, if_neg]
        · exact .of_triggers (dispatch_triggers _ _)
        · rintro ⟨rfl, undecided⟩
          rw [decided] at undecided; cases undecided
      · have counted : Tries trigger state _ (state.countdown counting).1 :=
          countdown_tries (within counting (.waited counting))
        rw [if_neg decided]
        by_cases mine : counting = trigger
        · subst mine
          rw [if_pos ⟨rfl, by simpa using decided⟩]
          rwa [if_pos rfl] at counted
        · rw [if_neg fun both => mine both.1]
          rwa [if_neg mine] at counted
    | call work args =>
      cases work with
      | resume name mode given => exact startNamed_tries _ _ _ _
      | _ => exact reply.tries fun _ _ => ⟨rfl, fun _ counts => by cases counts⟩
    | _ => exact reply.tries fun _ _ => ⟨rfl, fun _ counts => by cases counts⟩

theorem Shift.tries (shift : Shift state later) : Tries trigger state [] later := by
  refine ⟨fun below => shift.triggers ▸ below, fun _ => ?_, .of_eq ?_⟩
  · rw [shift.trigger]; exact ⟨rfl, rfl, rfl, rfl, rfl⟩
  · rw [shift.trigger]

theorem Sound.tries {next : State} (sound : Sound state) (stepped : state.step = some next) :
    Tries trigger state (state.attempts trigger) next := by
  cases step_advance sound.awake stepped with
  | passes agent idle turns =>
    rw [attempts, idle]
    exact turns.toShift.tries
  | ends agent signal active turns =>
    rw [attempts, active]
    exact turns.toShift.tries
  | answers agent frame rest signal active same =>
    have turns := (sound.replied active).turns
    rw [attempts, active, same]
    exact (sound.answer_tries active).before turns.toShift.tries

theorem issue_tries (idle : state.active = none) (operation : Operation) :
    Tries trigger state (state.attempts trigger) (state.issue operation) := by
  rw [attempts, idle]
  exact (activateMain_turns idle _).toShift.tries

end State

namespace Trace

variable {setting : Setting} {past : List State} {state : State}

theorem decides (trace : Trace (.initial setting) past state) (trigger : Nat) :
    Decides .undecided (State.tried trigger past) (state.trigger trigger).decision := by
  induction trace with
  | refl => exact .refl _
  | issue operation earlier finished ih =>
    rw [State.tried_cons]
    exact ih.trans (State.issue_tries (State.mainHasFinished_idle finished) operation).decides
  | step earlier stepped ih =>
    rw [State.tried_cons]
    exact ih.trans ((earlier.sound (.initial setting)).tries stepped).decides

/-- What has become of a trigger since a state that was passed through. -/
theorem tries_since (trace : Trace (.initial setting) past state) (trigger : Nat) :
    ∀ visited ∈ state :: past, ∃ attempts, State.Tries trigger visited attempts state := by
  have here : ∀ state : State, ∃ attempts, State.Tries trigger state attempts state :=
    fun state => ⟨[], .refl trigger state⟩
  induction trace with
  | refl => exact fun visited member => List.mem_singleton.mp member ▸ here _
  | issue operation earlier finished ih =>
    intro visited member
    rcases List.mem_cons.mp member with rfl | member
    · exact here _
    · obtain ⟨attempts, tried⟩ := ih visited member
      exact ⟨_, tried.trans (State.issue_tries (State.mainHasFinished_idle finished) operation)⟩
  | step earlier stepped ih =>
    intro visited member
    rcases List.mem_cons.mp member with rfl | member
    · exact here _
    · obtain ⟨attempts, tried⟩ := ih visited member
      exact ⟨_, tried.trans ((earlier.sound (.initial setting)).tries stepped)⟩

theorem decision_lasts (trace : Trace (.initial setting) past state) {trigger : Nat}
    {visited : State} (member : visited ∈ state :: past)
    (decided : visited.outcome trigger ≠ none) :
    (state.trigger trigger).decision = (visited.trigger trigger).decision := by
  obtain ⟨attempts, tried⟩ := trace.tries_since trigger visited member
  exact (tried.decides.taken decided).1

end Trace

end Timetable
