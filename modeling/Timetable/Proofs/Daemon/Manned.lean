import Timetable.Proofs.Chain.Consistent
import Timetable.Proofs.Daemon.Attended

/-! Tasks that run are manned.

Along a session in which tasks are started and awaited, a trigger whose thread is at work is the one that
its task holds, and its task runs. The thread stays at work for the task, or arms it anew, or ends its
chain with an error.
-/

set_option autoImplicit false

namespace Timetable

namespace State

variable {names : List String} {state later next : State} {agent : Agent} {number trigger : Nat}
  {frame : Frame} {rest : List Frame} {signal : Signal} {move : Move}

/-! ### Answers -/

theorem answer_error (unseeing : frame.isBrief = true ∨ frame.attends names = true)
    (failure : Failure) : state.answer agent (.error failure) frame = (state, .fail failure) := by
  show state.handle failure frame = _
  cases frame with
  | dispatched | sunk | inner | fired | calledBack => rcases unseeing with seen | seen <;> cases seen
  | _ =>
    unfold handle
    split <;> rfl

theorem callLibrary_tells (called : Library.Function) (args : List Value) :
    OnlyTells state (state.callLibrary agent called args).1 := by
  unfold callLibrary
  split <;> (dsimp only; split <;> rfl)

/-- What a run does that takes no more than the call of a function. -/
theorem answer_brief (brief : frame.isBrief = true) (signal : Signal) :
    OnlyTells state (state.answer (.thread trigger) signal frame).1 ∧
      ∀ added ∈ (state.answer (.thread trigger) signal frame).2.frames, added.isBrief = true := by
  cases signal with
  | error failure =>
    rw [@answer_error [] _ _ _ (.inl brief)]
    exact ⟨rfl, fun _ member => absurd member List.not_mem_nil⟩
  | ok value =>
    cases frame with
    | give given => exact ⟨rfl, fun _ member => absurd member List.not_mem_nil⟩
    | call work args =>
      cases work with
      | library called =>
        refine ⟨callLibrary_tells called args, ?_⟩
        show ∀ added ∈ (state.callLibrary (.thread trigger) called args).2.frames, _
        unfold callLibrary
        dsimp only
        split
        · exact fun _ member => absurd member List.not_mem_nil
        · intro added member
          rw [List.mem_singleton.mp member]
          rfl
        · exact fun _ member => absurd member List.not_mem_nil
      | _ => cases brief
    | _ => cases brief

theorem answer_last (agent : Agent) (silent : state.setting.sink = none)
    (last : frame.isLast = true) (value : Value) :
    OnlyTells state (state.answer agent (.ok value) frame).1 ∧
      (state.answer agent (.ok value) frame).2 = .give .null := by
  cases frame with
  | report report =>
    have told : state.answer agent (.ok value) (.report report) =
        (state.tell .error report.message, .give .null) := by
      show state.tellReport report = _
      unfold tellReport
      dsimp only
      rw [show (state.tell .error report.message).setting.sink = none from silent]
    rw [told]
    exact ⟨rfl, rfl⟩
  | sunk text => exact ⟨rfl, rfl⟩
  | dispatched other target => exact ⟨rfl, rfl⟩
  | _ => cases last

theorem startChain_attends (number : Nat) (mode : Mode) (args : List Value) :
    ∀ added ∈ (state.startChain number mode args).2.frames, added.attends names = true := by
  unfold startChain
  split
  · exact fun _ member => absurd member List.not_mem_nil
  · dsimp only
    split
    · exact fun _ member => absurd member List.not_mem_nil
    · next report _ =>
      cases report <;> simp [Move.go, Move.frames, reportFrames, Frame.attends]

/-- The main program starts a task that does not run, or does nothing to tasks. -/
theorem answer_main (silent : state.setting.sink = none) (attends : frame.attends names = true)
    (signal : Signal) :
    (∀ added ∈ (state.answer .main signal frame).2.frames, added.attends names = true) ∧
      (OnlyTells state (state.answer .main signal frame).1 ∨
        ∃ name mode args number value, frame = .perform (.start name mode args) ∧
          signal = .ok value ∧ name ∈ names ∧ state.find? name = some number ∧
          (state.entry number).isRunning = false ∧
          state.answer .main signal frame = state.startChain number mode args) := by
  have nothing : ∀ added ∈ ([] : List Frame), added.attends names = true :=
    fun _ member => absurd member List.not_mem_nil
  cases signal with
  | error failure =>
    rw [answer_error (.inr attends)]
    exact ⟨nothing, .inl rfl⟩
  | ok value =>
    cases frame with
    | give given => exact ⟨nothing, .inl rfl⟩
    | interrupted => exact ⟨nothing, .inl rfl⟩
    | report report =>
      obtain ⟨tells, move⟩ := answer_last .main silent
        (show (Frame.report report).isLast = true from rfl) value
      rw [move]
      exact ⟨nothing, .inl tells⟩
    | perform operation =>
      cases operation with
      | advance micros =>
        refine ⟨?_, .inl rfl⟩
        show ∀ added ∈ (state.sleep .main micros [.give (.bool true)]).frames, _
        unfold sleep
        dsimp only
        split
        · split <;> simp [Move.frames, Frame.attends]
        · simp [Move.frames, Frame.attends]
      | start name mode args =>
        show (∀ added ∈ (state.startNamed name mode args).2.frames, _) ∧
          (OnlyTells state (state.startNamed name mode args).1 ∨ _)
        have named : name ∈ names := of_decide_eq_true attends
        cases found : state.find? name with
        | none =>
          simp only [startNamed, found]
          exact ⟨nothing, .inl rfl⟩
        | some number =>
          have started : state.startNamed name mode args = state.startChain number mode args := by
            simp only [startNamed, found]
          rw [started]
          refine ⟨startChain_attends number mode args, ?_⟩
          cases running : (state.entry number).isRunning with
          | true => exact .inl (by rw [startChain, if_pos running]; rfl)
          | false => exact .inr ⟨name, mode, args, number, value, rfl, rfl, named, found, running, started⟩
      | _ => cases attends
    | _ => cases attends

/-! ### What the thread of a trigger does -/

/-- What becomes of a task by what its thread does itself, where the trigger is the one that the task
holds: the thread stays at work, or arms the task anew and concludes, or ends the chain with an error. -/
inductive Onward (number trigger : Nat) (state later : State) (standing : Standing) : Prop where
  | serves : Serves number trigger standing → later.stoppable? number = some trigger →
      Onward number trigger state later standing
  | retires (armed : Nat) : Concludes standing → later.stoppable? number = some armed →
      Onward number trigger state later standing
  | ends (report : Report) : Concludes standing → BrokeOff later number report →
      GivesUp state number report ∨ Founders state number report →
      Onward number trigger state later standing

theorem Concludes.of_reports {standing : Standing} {reports : List Report}
    (told : move = .go (reports.map Frame.report)) (target : Work)
    (decided : standing.outcome ≠ none) :
    Concludes { standing with
      stack := move.frames ++ [.dispatched trigger target], signal := move.signal } := by
  subst told
  refine ⟨fun frame member => ?_, fun _ => ⟨.null, rfl⟩, decided⟩
  rcases List.mem_append.mp member with member | member
  · obtain ⟨report, -, rfl⟩ := List.mem_map.mp member
    rfl
  · rw [List.mem_singleton.mp member]; rfl

theorem Concludes.of_complaint {standing : Standing} {report : Report} {text : String}
    (told : move = .go [.report report, .sunk text]) (decided : standing.outcome ≠ none) :
    Concludes { standing with stack := move.frames ++ [], signal := move.signal } := by
  subst told
  refine ⟨fun frame member => ?_, fun _ => ⟨.null, rfl⟩, decided⟩
  rcases List.mem_cons.mp member with rfl | member
  · rfl
  · rw [List.mem_singleton.mp member]; rfl

theorem Reply.waits_onward (linked : Linked state) (owned : state.owner trigger = some number)
    (held : state.stoppable? number = some trigger)
    (unstopped : (state.entry number).stopCallback? trigger = none) {value : Value}
    (active : state.active = some ⟨.thread trigger, [frame], .ok value⟩)
    (counts : frame.CountsDown trigger) (undecided : state.outcome trigger = none)
    (reply : Reply state (.thread trigger) (.ok value) frame later move) :
    Onward number trigger state later
      { later.standing number trigger with stack := move.frames ++ [], signal := move.signal } := by
  have within := linked.range trigger number owned
  have committed : ∀ outcome : Outcome,
      (state.commit trigger outcome none).1.stoppable? number = some trigger := by
    intro outcome
    rw [stoppable?_congr (entry_commit state trigger outcome none number), held]
  cases reply.counted counts with
  | waits pause deadline _ unmoved =>
    refine .serves (.waits (.waited trigger) .null (.waited trigger) rfl rfl ?_) ?_
    · exact (unmoved.outcome trigger).trans undecided
    · rw [stoppable?_congr (unmoved.entry number), held]
  | proceeds =>
    refine .serves (.calls (state.trigger trigger).args .null ?_ rfl) (committed .proceed)
    rw [linked.work trigger number owned]
    rfl
  | obeys called => exact absurd undecided (target?_decided called)
  | cancelled decided => exact absurd undecided decided
  | breaks fault _ faulty =>
    have kept := commit_keeps state trigger .cancel none trigger
    obtain ⟨broke, text, told⟩ := @complain_brokeOff
      (state.commit trigger .cancel none).1 number trigger (by rwa [entries_commit])
      ((owner_commit state trigger .cancel none trigger).trans owned)
      (stoppable?_iff.mp (committed .cancel)).2
      (by rw [entry_commit]; exact unstopped) (state.trigger trigger).work "waiting for" fault.failure
    rw [linked.work trigger number owned] at broke told ⊢
    have decided : (state.commit trigger .cancel none).1.outcome trigger ≠ none := by
      rw [outcome_commit (Local.within_of_owner owned), if_pos rfl]
      rintro ⟨⟩
    refine .ends _ (.of_complaint told ((complain_grows _ _ _ _ _).decided trigger decided)) broke
      (.inl (.unawaited trigger frame [] value fault active counts owned undecided faulty ?_))
    rw [kept]
    rfl

theorem Reply.calls_onward (linked : Linked state) (held : state.stoppable? number = some trigger)
    {work : Work} (given : (state.entry number).work = work)
    (brief : ∃ called, work = .library called) {args : List Value} {value : Value}
    (reply : Reply state (.thread trigger) (.ok value) (.call (.fire number trigger) args) later
      move) :
    Onward number trigger state later
      { later.standing number trigger with
        stack := move.frames ++ [.dispatched trigger (.fire number trigger)]
        signal := move.signal } := by
  rcases reply.of_fire with ⟨fault, -, rfl, rfl⟩ | ⟨time, -, unmoved, rfl⟩
  · exact .serves (.fails fault.failure rfl rfl) held
  · obtain ⟨called, rfl⟩ := brief
    refine .serves (.runs [.call (state.entry number).work args] args (state.entry number).mode
      (state.entry number).work (fun frame member => ?_) rfl) ?_
    · rw [List.mem_singleton.mp member, given]; rfl
    · rw [stoppable?_congr (unmoved.entry number), (Neutral.noteRun state number time).stoppable?,
        held]

theorem Reply.runs_onward (linked : Linked state) (unscripted : state.setting.plans = none)
    (owned : state.owner trigger = some number) (held : state.stoppable? number = some trigger)
    {args : List Value} {mode : Mode} {work : Work}
    (active : state.active = some ⟨.thread trigger, [.fired number trigger args mode work,
      .dispatched trigger (.fire number trigger)], signal⟩)
    (reply : Reply state (.thread trigger) signal (.fired number trigger args mode work) later
      move) (decided : later.outcome trigger ≠ none) :
    Onward number trigger state later
      { later.standing number trigger with
        stack := move.frames ++ [.dispatched trigger (.fire number trigger)]
        signal := move.signal } := by
  rcases reply.of_fired with ⟨failure, -, -, rfl, rfl⟩ | ended
  · exact .serves (.fails failure rfl rfl) held
  obtain ⟨failed, noted, counted, same⟩ := state.endRun_eq number trigger args mode work signal
  have neutral := counted.neutral
  have kept : noted.stoppable? number = some trigger := (neutral.stoppable? number).trans held
  have arming := arm_arming noted number (nextArgs mode args signal) (state.trigger trigger).due
  rw [same, goOn, if_pos (stoppable?_iff.mp kept)] at ended
  generalize planned : noted.arm number (nextArgs mode args signal) (state.trigger trigger).due =
    result at ended arming
  obtain ⟨reached, result⟩ := result
  rcases arming.armed_or (neutral.setting ▸ unscripted)
      (Nat.lt_of_lt_of_le (linked.range trigger number owned) neutral.entries)
      (stoppable?_iff.mp kept).1 with
    ⟨fault, -, failed, unchanged⟩ | ⟨done, armed⟩ | ⟨report, done, broke⟩
  · obtain rfl : result = .error fault.failure := failed
    obtain ⟨rfl, rfl⟩ := Prod.mk.inj ended
    exact .serves (.fails fault.failure rfl rfl) ((congrArg (·.stoppable? number) unchanged).trans kept)
  · obtain rfl : result = .ok none := done
    obtain ⟨rfl, rfl⟩ := Prod.mk.inj ended
    refine .retires _ (@Concludes.of_reports trigger _ _ failed.toList ?_ _ decided) armed
    rw [reportFrames_eq]
    exact congrArg Move.go (List.append_nil _)
  · obtain rfl : result = .ok (some report) := done
    obtain ⟨rfl, rfl⟩ := Prod.mk.inj ended
    refine .ends report (@Concludes.of_reports trigger _ _ (failed.toList ++ [report]) ?_ _ decided) broke
      (.inl (.unarmed trigger args mode work _ signal noted active counted (by rw [planned])))
    rw [reportFrames_eq, List.map_append]
    rfl

theorem Reply.fails_onward (linked : Linked state) (owned : state.owner trigger = some number)
    (held : state.stoppable? number = some trigger)
    (unstopped : (state.entry number).stopCallback? trigger = none) {failure : Failure}
    (active : state.active =
      some ⟨.thread trigger, [.dispatched trigger (.fire number trigger)], .error failure⟩)
    (reply : Reply state (.thread trigger) (.error failure)
      (.dispatched trigger (.fire number trigger)) later move)
    (decided : later.outcome trigger ≠ none) :
    Onward number trigger state later
      { later.standing number trigger with stack := move.frames ++ [], signal := move.signal } := by
  rcases reply.of_dispatched with ⟨value, done, -⟩ | ⟨other, failed, either⟩
  · cases done
  obtain rfl := Except.error.inj failed
  rcases either with ⟨-, rfl, rfl⟩ | ⟨mild, complained⟩
  · exact .retires trigger
      ⟨fun _ member => absurd member List.not_mem_nil, fun busy => absurd rfl busy, decided⟩ held
  · obtain ⟨broke, text, told⟩ := complain_brokeOff (linked.range trigger number owned) owned
      (stoppable?_iff.mp held).2 unstopped (.fire number trigger) "running" failure
    rw [← complained] at broke told
    exact .ends _ (.of_complaint told decided) broke (.inr ⟨trigger, [], failure, active, mild, rfl⟩)

/-! ### What the thread of a trigger leaves alone -/

theorem complain_local (owned : state.owner trigger = some number) (target : Work)
    (stage : String) (failure : Failure) :
    Local number state (state.complain trigger target stage failure).1 := by
  obtain ⟨report, text, -, same⟩ := complain_owned owned target stage failure
  rw [same]
  exact abandonChain_local _ _ _ report

theorem Counted.local (owned : state.owner trigger = some number)
    (counted : Counted state trigger later move) : Local number state later := by
  cases counted with
  | waits _ _ _ unmoved => exact unmoved.local number
  | proceeds => exact .commit owned .proceed (by rintro ⟨⟩)
  | obeys _ unmoved => exact unmoved.local number
  | cancelled _ _ unmoved => exact unmoved.local number
  | breaks =>
    exact (Local.commit owned .cancel (by rintro ⟨⟩)).trans
      (complain_local ((owner_commit _ _ _ _ _).trans owned) _ _ _)

theorem Local.owned (inside : Local number state later)
    (owned : ∀ trigger, state.isStarted trigger = true → ∃ task, state.owner trigger = some task)
    (trigger : Nat) (started : later.isStarted trigger = true) :
    ∃ task, later.owner trigger = some task := by
  by_cases beyond : state.triggers.size ≤ trigger
  · rcases inside.born trigger beyond with absent | ⟨owned, -⟩
    · rw [isStarted, absent] at started
      cases started
    · exact ⟨number, owned⟩
  · have within := Nat.lt_of_not_le beyond
    rw [inside.owner_eq within]
    refine owned trigger ?_
    rw [← started, isStarted, isStarted, inside.kept trigger within]

theorem Shift.owned (shift : Shift state later)
    (owned : ∀ trigger, state.isStarted trigger = true → ∃ task, state.owner trigger = some task)
    (trigger : Nat) (started : later.isStarted trigger = true) :
    ∃ task, later.owner trigger = some task := by
  rw [shift.owner]
  exact owned trigger (shift.started trigger ▸ started)

/-- The thread of a trigger that is at work for its task does nothing to others. -/
theorem Serves.local {standing : Standing} (serves : Serves number trigger standing)
    (owned : state.owner trigger = some number) (stack : standing.stack = frame :: rest)
    (given : standing.signal = signal)
    (reply : Reply state (.thread trigger) signal frame later move)
    (brief : frame.isBrief = true → OnlyTells state later) : Local number state later := by
  cases serves with
  | waits first value counts stacked ok =>
    obtain ⟨rfl, rfl⟩ := List.cons.inj (stack.symm.trans stacked)
    obtain rfl := given.symm.trans ok
    exact (reply.counted counts).local owned
  | calls args value stacked ok =>
    obtain ⟨rfl, rfl⟩ := List.cons.inj (stack.symm.trans stacked)
    obtain rfl := given.symm.trans ok
    rcases reply.of_fire with ⟨fault, -, rfl, -⟩ | ⟨time, -, unmoved, -⟩
    · exact .refl _ _
    · exact (Local.updateEntry state number (fun entry => entry.noteRun time) (fun _ => rfl)
        (fun _ => rfl) (fun _ => rfl)
        .inl).trans (unmoved.local number)
  | runs above args mode work all stacked =>
    cases above with
    | nil =>
      obtain ⟨rfl, rfl⟩ := List.cons.inj (stack.symm.trans stacked)
      rcases reply.of_fired with ⟨failure, -, -, rfl, -⟩ | ended
      · exact .refl _ _
      · have ending := state.endRun_ending number trigger args mode work signal
        rw [← ended] at ending
        exact ending.local
    | cons first above =>
      obtain ⟨rfl, rfl⟩ := List.cons.inj (stack.symm.trans stacked)
      exact (brief (all frame List.mem_cons_self)).unmoved.local number
  | fails failure stacked failed =>
    obtain ⟨rfl, rfl⟩ := List.cons.inj (stack.symm.trans stacked)
    obtain rfl := given.symm.trans failed
    rcases reply.of_dispatched with ⟨value, done, -⟩ | ⟨other, -, ⟨-, rfl, -⟩ | ⟨-, complained⟩⟩
    · cases done
    · exact .refl _ _
    · have inside := complain_local owned (.fire number trigger) "running" other
      rw [← complained] at inside
      exact inside

/-! ### Sessions in which tasks are started and awaited -/

structure Manned (names : List String) (state : State) : Prop where
  sound : Sound state
  unscripted : state.setting.plans = none
  silent : state.setting.sink = none
  called : ∀ number < state.entries.size,
    ∃ called, (state.entry number).work = .library called
  unstopped : ∀ number trigger, (state.entry number).stopCallback? trigger = none
  owned : ∀ trigger, state.isStarted trigger = true → ∃ number, state.owner trigger = some number
  /-- A thread that is at work is that of the trigger that its task holds. -/
  manned : ∀ number trigger, state.owner trigger = some number → state.isStarted trigger = true →
    Serves number trigger (state.standing number trigger) ∧
        state.stoppable? number = some trigger ∨
      Concludes (state.standing number trigger)
  main : ∀ frame ∈ state.stackOf .main, frame.attends names = true
  named : ∀ number, (state.entry number).isRunning = true → (state.entry number).name ∈ names

theorem Serves.congr {before after : Standing} (serves : Serves number trigger before)
    (stack : after.stack = before.stack) (signal : after.signal = before.signal)
    (outcome : after.outcome = before.outcome) : Serves number trigger after := by
  cases serves with
  | waits frame value counts stacked ok undecided =>
    exact .waits frame value counts (stack.trans stacked) (signal.trans ok)
      (outcome.trans undecided)
  | calls args value stacked ok => exact .calls args value (stack.trans stacked) (signal.trans ok)
  | runs above args mode work brief stacked =>
    exact .runs above args mode work brief (stack.trans stacked)
  | fails failure stacked failed => exact .fails failure (stack.trans stacked) (signal.trans failed)

theorem Serves.busy {standing : Standing} (serves : Serves number trigger standing) :
    standing.stack ≠ [] := by
  cases serves with
  | waits frame value counts same => rw [same]; rintro ⟨⟩
  | calls args value same => rw [same]; rintro ⟨⟩
  | runs above args mode work common same => rw [same]; cases above <;> rintro ⟨⟩
  | fails failure same => rw [same]; rintro ⟨⟩

theorem Concludes.congr {before after : Standing} (concludes : Concludes before)
    (stack : after.stack = before.stack) (signal : after.signal = before.signal)
    (decided : after.outcome ≠ none) : Concludes after where
  last frame member := concludes.last frame (stack ▸ member)
  calm busy := by rw [signal]; exact concludes.calm (stack ▸ busy)
  decided := decided

theorem Concludes.active (concludes : Concludes (state.standing number trigger))
    (active : state.active = some ⟨.thread trigger, frame :: rest, signal⟩) :
    ∃ value, signal = .ok value ∧ frame.isLast = true ∧ ∀ other ∈ rest, other.isLast = true := by
  have stack : (state.standing number trigger).stack = frame :: rest := stackOf_active active
  obtain ⟨value, ok⟩ := concludes.calm (by rw [stack]; rintro ⟨⟩)
  have last := concludes.last
  rw [stack] at last
  exact ⟨value, (signalOf_active active).symm.trans ok, last frame List.mem_cons_self,
    fun other member => last other (List.mem_cons_of_mem _ member)⟩

theorem Concludes.of_empty {standing : Standing} (stack : standing.stack = [])
    (decided : standing.outcome ≠ none) : Concludes standing where
  last frame member := by rw [stack] at member; cases member
  calm busy := absurd stack busy
  decided := decided

/-- A main program that starts tasks and waits goes on doing no more than that. -/
theorem Sound.attends_step (sound : Sound state) (silent : state.setting.sink = none)
    (attends : ∀ frame ∈ state.stackOf .main, frame.attends names = true)
    (stepped : state.step = some next) :
    ∀ frame ∈ next.stackOf .main, frame.attends names = true := by
  cases step_advance sound.awake stepped with
  | passes agent idle turns =>
    by_cases own : agent = .main
    · subst own
      rw [turns.stack]; exact attends
    · rw [turns.otherStacks _ (Ne.symm own)]; exact attends
  | ends agent signal active turns =>
    by_cases own : agent = .main
    · subst own
      rw [turns.stack]; exact fun _ member => absurd member List.not_mem_nil
    · rw [turns.otherStacks _ (Ne.symm own)]; exact attends
  | answers agent frame rest signal active same =>
    have replied := sound.replied_step active stepped
    by_cases own : agent = .main
    · subst own
      rw [stackOf_active active] at attends
      rw [replied.turns.stack]
      intro other member
      rcases List.mem_append.mp member with added | kept
      · exact (answer_main silent (attends frame List.mem_cons_self) signal).1 other added
      · exact attends other (List.mem_cons_of_mem _ kept)
    · rw [replied.turns.otherStacks _ (Ne.symm own)]
      rcases (replied.reply.grows sound.linked).stackOf active (Ne.symm own) with
        kept | ⟨begun, mine, -⟩
      · rw [kept]; exact attends
      · cases mine

namespace Manned

theorem owner_active (manned : Manned names state) {stack : List Frame}
    (active : state.active = some ⟨.thread trigger, stack, signal⟩) :
    ∃ number, state.owner trigger = some number ∧ state.isStarted trigger = true := by
  have started := isStarted_of_running (manned.sound.awake trigger _ _ active)
  obtain ⟨number, owned⟩ := manned.owned trigger started
  exact ⟨number, owned, started⟩

theorem onward (manned : Manned names state)
    (active : state.active = some ⟨.thread trigger, frame :: rest, signal⟩)
    (owned : state.owner trigger = some number)
    (serves : Serves number trigger (state.standing number trigger))
    (held : state.stoppable? number = some trigger) :
    Onward number trigger state (state.answer (.thread trigger) signal frame).1
      { (state.answer (.thread trigger) signal frame).1.standing number trigger with
        stack := (state.answer (.thread trigger) signal frame).2.frames ++ rest
        signal := (state.answer (.thread trigger) signal frame).2.signal } := by
  have linked := manned.sound.linked
  have reply := (manned.sound.replied active).reply
  have stack : (state.standing number trigger).stack = frame :: rest := stackOf_active active
  have given : (state.standing number trigger).signal = signal := signalOf_active active
  have brief := fun short => @answer_brief state trigger frame short signal
  have decided : .dispatched trigger (.fire number trigger) ∈ frame :: rest →
      (state.answer (.thread trigger) signal frame).1.outcome trigger ≠ none := fun member =>
    (reply.grows linked).decided trigger (manned.sound.fits_active active _ member).2
  generalize (state.answer (.thread trigger) signal frame).1 = later at reply brief decided ⊢
  generalize (state.answer (.thread trigger) signal frame).2 = move at reply brief ⊢
  cases serves with
  | waits first value counts stacked ok undecided =>
    obtain ⟨rfl, rfl⟩ := List.cons.inj (stack.symm.trans stacked)
    obtain rfl := given.symm.trans ok
    exact reply.waits_onward linked owned held (manned.unstopped number trigger) active counts
      undecided
  | calls args value stacked ok =>
    obtain ⟨rfl, rfl⟩ := List.cons.inj (stack.symm.trans stacked)
    obtain rfl := given.symm.trans ok
    exact reply.calls_onward linked held rfl (manned.called number (linked.range _ _ owned))
  | runs above args mode work all stacked =>
    cases above with
    | nil =>
      obtain ⟨rfl, rfl⟩ := List.cons.inj (stack.symm.trans stacked)
      exact reply.runs_onward linked manned.unscripted owned held active
        (decided (List.mem_cons_of_mem _ List.mem_cons_self))
    | cons first above =>
      -- What the function does stays above the end of the run.
      obtain ⟨rfl, rfl⟩ := List.cons.inj (stack.symm.trans stacked)
      obtain ⟨tells, added⟩ := brief (all frame List.mem_cons_self)
      refine .serves (.runs (move.frames ++ above) args mode work (fun other member => ?_)
        (List.append_assoc ..).symm) ?_
      · exact (List.mem_append.mp member).elim (added other) fun member =>
          all other (List.mem_cons_of_mem _ member)
      · rw [stoppable?_congr (tells.unmoved.entry number), held]
  | fails failure stacked failed =>
    obtain ⟨rfl, rfl⟩ := List.cons.inj (stack.symm.trans stacked)
    obtain rfl := given.symm.trans failed
    exact reply.fails_onward linked owned held (manned.unstopped number trigger) active
      (decided List.mem_cons_self)

/-- What a step does to tasks: it starts one of the tasks of the session that does not run, or it is up to
the thread of the trigger that a task holds. -/
theorem acting (manned : Manned names state)
    (active : state.active = some ⟨agent, frame :: rest, signal⟩) :
    OnlyTells state (state.answer agent signal frame).1 ∨
      ∃ number, Local number state (state.answer agent signal frame).1 ∧
        (state.entry number).name ∈ names ∧
        (agent = .main ∧ (state.entry number).isRunning = false ∨
          ∃ trigger, agent = .thread trigger ∧ state.stoppable? number = some trigger) := by
  have stack := stackOf_active active
  cases agent with
  | main =>
    have attends := manned.main frame (by rw [stack]; exact List.mem_cons_self)
    refine (answer_main manned.silent attends signal).2.imp_right ?_
    rintro ⟨name, mode, args, number, value, -, -, named, found, idle, same⟩
    obtain ⟨member, called⟩ := find?_mem found
    exact ⟨number, same ▸ startChain_local mode args member idle, called ▸ named, .inl ⟨rfl, idle⟩⟩
  | thread trigger =>
    obtain ⟨number, owned, started⟩ := manned.owner_active active
    rcases manned.manned number trigger owned started with ⟨serves, held⟩ | concludes
    · refine .inr ⟨number, serves.local owned stack (signalOf_active active)
        (manned.sound.replied active).reply fun short => (answer_brief short signal).1, ?_,
        .inr ⟨trigger, rfl, held⟩⟩
      exact manned.named number (stoppable?_iff.mp held).1
    · obtain ⟨value, rfl, last, -⟩ := concludes.active active
      exact .inl (answer_last _ manned.silent last value).1

theorem local_active (manned : Manned names state)
    (active : state.active = some ⟨agent, frame :: rest, signal⟩) :
    ∃ number, Local number state (state.answer agent signal frame).1 := by
  rcases manned.acting active with tells | ⟨number, inside, -⟩
  · exact ⟨0, tells.unmoved.local 0⟩
  · exact ⟨number, inside⟩

theorem spares (manned : Manned names state)
    (active : state.active = some ⟨agent, frame :: rest, signal⟩)
    (held : state.stoppable? number = some trigger) (other : agent ≠ .thread trigger) :
    (state.answer agent signal frame).1.entry number = state.entry number := by
  rcases manned.acting active with tells | ⟨task, inside, -, own⟩
  · exact tells.unmoved.entry number
  by_cases same : number = task
  · subst same
    rcases own with ⟨-, idle⟩ | ⟨mine, rfl, holds⟩
    · rw [(stoppable?_iff.mp held).1] at idle
      cases idle
    · cases held.symm.trans holds
      exact absurd rfl other
  · exact inside.others number same

theorem outcome_aside (manned : Manned names state)
    (active : state.active = some ⟨agent, frame :: rest, signal⟩)
    (owned : state.owner trigger = some number) (started : state.isStarted trigger = true)
    (other : agent ≠ .thread trigger) :
    (state.answer agent signal frame).1.outcome trigger = state.outcome trigger := by
  rcases manned.acting active with tells | ⟨task, inside, -, own⟩
  · exact tells.unmoved.outcome trigger
  cases decided : state.outcome trigger with
  | some outcome =>
    rw [State.outcome, inside.decided trigger outcome decided]
    exact decided
  | none =>
    -- An undecided trigger is held by its task, which then is not the one that is started or goes on.
    obtain ⟨holds, running, -⟩ :=
      (manned.sound.linked.tasks number).armed trigger owned started decided
    rw [State.outcome, inside.foreign trigger (within_of_isStarted started) ?_]
    · exact decided
    · intro mine
      obtain rfl := Option.some.inj (owned.symm.trans mine)
      rcases own with ⟨-, idle⟩ | ⟨mine, rfl, held⟩
      · rw [isRunning_iff.mpr running] at idle
        cases idle
      · cases (stoppable?_iff.mp held).2.symm.trans holds
        exact other rfl

theorem standing_aside (manned : Manned names state)
    (active : state.active = some ⟨agent, frame :: rest, signal⟩)
    (started : state.isStarted trigger = true) (other : agent ≠ .thread trigger) :
    ((state.answer agent signal frame).1.standing number trigger).stack =
        (state.standing number trigger).stack ∧
      ((state.answer agent signal frame).1.standing number trigger).signal =
        (state.standing number trigger).signal := by
  have grows := (manned.sound.replied active).reply.grows manned.sound.linked
  refine ⟨?_, (signalOf_other (grows.active.trans active) (Ne.symm other)).trans
    (signalOf_other active (Ne.symm other)).symm⟩
  rcases grows.stackOf active (Ne.symm other) with same | ⟨begun, mine, unstarted, -⟩
  · exact same
  · cases mine
    rw [started] at unstarted
    cases unstarted

theorem quiet (manned : Manned names state) {operation : Operation}
    (active : state.active = some ⟨agent, .perform operation :: rest, signal⟩) :
    operation.attends names = true := by
  have stack := stackOf_active active
  cases agent with
  | main => exact manned.main (.perform operation) (by rw [stack]; exact List.mem_cons_self)
  | thread trigger =>
    obtain ⟨number, owned, started⟩ := manned.owner_active active
    have stacked : (state.standing number trigger).stack = .perform operation :: rest := stack
    rcases manned.manned number trigger owned started with ⟨serves, -⟩ | concludes
    · cases serves with
      | waits frame _ counts same =>
        cases (List.cons.inj (stacked.symm.trans same)).1
        cases counts
      | calls _ _ same => cases stacked.symm.trans same
      | runs above _ _ _ brief same =>
        cases above with
        | nil => cases stacked.symm.trans same
        | cons frame above =>
          cases (List.cons.inj (stacked.symm.trans same)).1
          cases brief _ List.mem_cons_self
      | fails _ same => cases stacked.symm.trans same
    · obtain ⟨-, -, last, -⟩ := concludes.active active
      cases last

theorem unstopped_active (manned : Manned names state)
    (active : state.active = some ⟨agent, frame :: rest, signal⟩) (callback : Work) :
    .stopped number trigger callback ∉ state.frameDeeds agent signal frame := by
  unfold frameDeeds
  split
  · next operation =>
    have attends := manned.quiet active
    cases operation with
    | start name mode args =>
      dsimp only [operationDeeds]
      split
      · exact List.not_mem_nil
      · exact not_mem_startDeeds
    | advance micros => exact List.not_mem_nil
    | _ => cases attends
  · split
    · exact List.not_mem_nil
    · exact not_mem_startDeeds
  · simp
  · simp
  · split <;> simp
  · exact List.not_mem_nil

/-! ### Steps and operations -/

/-- A trigger whose thread is at work belongs to the session: it was there before, or it has just been
armed. -/
theorem manned_answer (manned : Manned names state) (stepped : state.step = some next)
    (active : state.active = some ⟨agent, frame :: rest, signal⟩)
    (owned : next.owner trigger = some number) (started : next.isStarted trigger = true) :
    Serves number trigger (next.standing number trigger) ∧
        next.stoppable? number = some trigger ∨
      Concludes (next.standing number trigger) := by
  have sound := manned.sound
  have replied := sound.replied_step active stepped
  have shift := replied.turns.toShift
  obtain ⟨task, inside⟩ := manned.local_active active
  by_cases beyond : state.triggers.size ≤ trigger
  · have fresh : ∀ task, state.owner trigger = some task → state.isStarted trigger = false :=
      fun task mine => absurd (Local.within_of_owner mine) (Nat.not_lt_of_le beyond)
    have undecided := sound.undecided_of_new stepped beyond owned
    obtain ⟨holds, running, -⟩ :=
      ((sound.step stepped).linked.tasks number).armed trigger owned started undecided
    obtain ⟨other, -, -, -, born⟩ :=
      Replied.born sound active fresh ((shift.owner trigger).symm.trans owned)
    obtain ⟨stack, given⟩ := born ((shift.started trigger).symm.trans started)
    refine .inl ⟨.waits (.countdown trigger) .null (.countdown trigger) ?_ ?_ undecided,
      stoppable?_iff.mpr ⟨isRunning_iff.mpr running, holds⟩⟩
    · rw [replied.turns.standing_other other]; exact stack
    · rw [replied.turns.standing_other other]; exact given
  have mine : state.owner trigger = some number := by
    rw [← inside.owner_eq (Nat.lt_of_not_le beyond), ← shift.owner]
    exact owned
  have began : state.isStarted trigger = true := by
    cases unstarted : state.isStarted trigger with
    | true => rfl
    | false =>
      rw [sound.stays_unstarted stepped mine unstarted] at started
      cases started
  by_cases own : agent = .thread trigger
  · subst own
    rw [replied.turns.standing, stoppable?_congr (shift.entry number)]
    rcases manned.manned number trigger mine began with ⟨serves, held⟩ | concludes
    · cases manned.onward active mine serves held with
      | serves serves held => exact .inl ⟨serves, held⟩
      | retires _ concludes _ => exact .inr concludes
      | ends _ concludes _ _ => exact .inr concludes
    · obtain ⟨value, rfl, last, others⟩ := concludes.active active
      obtain ⟨tells, move⟩ := answer_last (.thread trigger) manned.silent last value
      refine .inr ⟨?_, fun _ => ⟨.null, by rw [move]; rfl⟩, ?_⟩
      · rw [move]; exact others
      · exact fun same => concludes.decided ((tells.unmoved.outcome trigger).symm.trans same)
  · obtain ⟨stack, given⟩ := @Manned.standing_aside _ _ _ number _ _ _ _ manned active began own
    have outcome := manned.outcome_aside active mine began own
    rw [replied.turns.standing_other own, stoppable?_congr (shift.entry number)]
    rcases manned.manned number trigger mine began with ⟨serves, held⟩ | concludes
    · refine .inl ⟨serves.congr stack given outcome, ?_⟩
      rw [stoppable?_congr (manned.spares active held own), held]
    · exact .inr (concludes.congr stack given fun same =>
        concludes.decided (outcome.symm.trans same))

/-- What holds along a session is kept where nothing happens to tasks and triggers. -/
theorem shift (manned : Manned names state) (sound : Sound later) (shift : Shift state later)
    (standing : ∀ number trigger, state.owner trigger = some number →
      state.isStarted trigger = true →
      later.standing number trigger = state.standing number trigger ∨
        (later.standing number trigger).stack = [] ∧ (state.standing number trigger).stack = [])
    (main : ∀ frame ∈ later.stackOf .main, frame.attends names = true) : Manned names later where
  sound := sound
  unscripted := by rw [shift.setting]; exact manned.unscripted
  silent := by rw [shift.setting]; exact manned.silent
  called number within := by
    rw [shift.entry]
    exact manned.called number (shift.entries ▸ within)
  unstopped number trigger := by rw [shift.entry]; exact manned.unstopped number trigger
  owned := shift.owned manned.owned
  manned number trigger owned started := by
    rw [shift.owner] at owned
    rw [shift.started] at started
    rw [stoppable?_congr (shift.entry number)]
    rcases standing number trigger owned started with same | ⟨empty, before⟩
    · rw [same]; exact manned.manned number trigger owned started
    · rcases manned.manned number trigger owned started with ⟨serves, -⟩ | concludes
      · exact absurd before serves.busy
      · exact .inr (.of_empty empty fun same =>
          concludes.decided ((shift.outcome trigger).symm.trans same))
  main := main
  named number running := by
    rw [shift.entry] at running ⊢
    exact manned.named number running

theorem step (manned : Manned names state) (stepped : state.step = some next) :
    Manned names next := by
  have sound := manned.sound
  cases step_advance sound.awake stepped with
  | passes agent idle turns =>
    exact manned.shift (sound.step stepped) turns.toShift
      (fun number trigger _ _ => .inl (turns.standing_idle idle number trigger))
      (sound.attends_step manned.silent manned.main stepped)
  | ends agent signal active turns =>
    refine manned.shift (sound.step stepped) turns.toShift (fun number trigger _ _ => ?_)
      (sound.attends_step manned.silent manned.main stepped)
    by_cases own : agent = .thread trigger
    · subst own
      rw [turns.standing]
      exact .inr ⟨rfl, stackOf_active active⟩
    · exact .inl (turns.standing_other own)
  | answers agent frame rest signal active same =>
    have replied := sound.replied_step active stepped
    have shift := replied.turns.toShift
    obtain ⟨task, inside⟩ := manned.local_active active
    constructor
    · exact sound.step stepped
    · rw [shift.setting, inside.setting]; exact manned.unscripted
    · rw [shift.setting, inside.setting]; exact manned.silent
    · intro number within
      rw [shift.entry]
      rw [shift.entries, inside.size] at within
      by_cases own : number = task
      · subst own
        rw [inside.work]; exact manned.called number within
      · rw [inside.others number own]; exact manned.called number within
    · intro number trigger
      rw [shift.entry]
      rcases (Keeps.reply (replied.fits sound) replied.reply).pending number trigger with
        same | ⟨-, none⟩ | ⟨callback, -, issued⟩
      · exact same.trans (manned.unstopped number trigger)
      · exact none
      · exact absurd issued (manned.unstopped_active active callback)
    · exact shift.owned (inside.owned manned.owned)
    · exact fun number trigger owned started => manned.manned_answer stepped active owned started
    · exact sound.attends_step manned.silent manned.main stepped
    · intro number running
      rw [shift.entry] at running ⊢
      rcases manned.acting active with tells | ⟨actor, only, named, -⟩
      · rw [tells.unmoved.entry] at running ⊢
        exact manned.named number running
      · by_cases own : number = actor
        · subst own
          rw [only.name]; exact named
        · rw [only.others number own] at running ⊢
          exact manned.named number running

theorem issue (manned : Manned names state) (finished : state.mainHasFinished = true)
    {operation : Operation} (attends : operation.attends names = true) :
    Manned names (state.issue operation) := by
  have idle := mainHasFinished_idle finished
  have turns := activateMain_turns idle [.perform operation]
  refine manned.shift (manned.sound.issue finished operation) turns.toShift
    (fun number trigger _ _ => .inl (turns.standing_other (by rintro ⟨⟩))) ?_
  intro frame member
  rw [show (state.issue operation).stackOf .main = [.perform operation] from turns.stack] at member
  rw [List.mem_singleton.mp member]
  exact attends

end Manned

end State

namespace Attended

variable {names : List String} {first state : State} {past : List State}

theorem manned (manned : first.Manned names) (attended : Attended names first past state) :
    state.Manned names := by
  induction attended with
  | refl => exact manned
  | issue operation earlier finished attends ih => exact ih.issue finished attends
  | step earlier stepped ih => exact ih.step stepped

theorem setting_eq (manned : first.Manned names) (attended : Attended names first past state) :
    state.setting = first.setting := by
  induction attended with
  | refl => rfl
  | issue operation earlier finished attends ih => exact ih
  | step earlier stepped ih => exact ((earlier.manned manned).sound.setting_eq stepped).trans ih

end Attended

end Timetable
