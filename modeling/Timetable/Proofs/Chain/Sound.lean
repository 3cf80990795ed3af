import Timetable.Proofs.Chain.Bound
import Timetable.Proofs.Machine.Trace

/-! What holds in every state of a session.

Frames of a trigger stand on the stack of its own thread, and were put there for what the trigger was
decided to do. With this, every reply keeps all chains bound to their triggers.
-/

set_option autoImplicit false

namespace Timetable

namespace State

/-- `Grows state later`: triggers keep their tasks, their arguments and their decisions, and other
threads than the one that runs are at most started. -/
structure Grows (state later : State) : Prop where
  setting : later.setting = state.setting
  clock : later.clock = state.clock
  active : later.active = state.active
  main : later.main = state.main
  owner : ∀ trigger number, state.owner trigger = some number →
    later.owner trigger = some number
  args : ∀ trigger number, state.owner trigger = some number →
    (later.trigger trigger).args = (state.trigger trigger).args
  outcome : ∀ trigger number outcome, state.owner trigger = some number →
    state.outcome trigger = some outcome → later.outcome trigger = some outcome
  decided : ∀ trigger, state.outcome trigger ≠ none → later.outcome trigger ≠ none
  thread : ∀ trigger, (later.trigger trigger).thread = (state.trigger trigger).thread ∨
    (state.trigger trigger).thread = .unstarted ∧
      (later.trigger trigger).thread = .suspended [.countdown trigger]

variable {number : Nat} {state middle later : State} {agent : Agent}

namespace Grows

theorem refl (state : State) : Grows state state :=
  ⟨rfl, rfl, rfl, rfl, fun _ _ => id, fun _ _ _ => rfl, fun _ _ _ _ => id, fun _ => id,
    fun _ => .inl rfl⟩

theorem trans (first : Grows state middle) (second : Grows middle later) : Grows state later where
  setting := second.setting.trans first.setting
  clock := second.clock.trans first.clock
  active := second.active.trans first.active
  main := second.main.trans first.main
  owner trigger number owned := second.owner trigger number (first.owner trigger number owned)
  args trigger number owned :=
    (second.args trigger number (first.owner trigger number owned)).trans
      (first.args trigger number owned)
  outcome trigger number outcome owned decided :=
    second.outcome trigger number outcome (first.owner trigger number owned)
      (first.outcome trigger number outcome owned decided)
  decided trigger decided := second.decided trigger (first.decided trigger decided)
  thread trigger := thread_trans (first.thread trigger) (second.thread trigger)

theorem isStarted (grows : Grows state later) {trigger : Nat}
    (started : state.isStarted trigger = true) : later.isStarted trigger = true := by
  rcases grows.thread trigger with same | ⟨unstarted, -⟩
  · rw [State.isStarted, same]; exact started
  · rw [State.isStarted, unstarted] at started; cases started

end Grows

theorem Neutral.grows (neutral : Neutral state later) : Grows state later where
  setting := neutral.setting
  clock := neutral.clock
  active := neutral.active
  main := neutral.main
  owner trigger _ owned := (neutral.owner_eq trigger).trans owned
  args trigger number owned := by rw [neutral.owned trigger number owned]
  outcome trigger number _ owned decided := by
    rw [State.outcome, neutral.owned trigger number owned]; exact decided
  decided := neutral.decided
  thread := neutral.thread

theorem Local.grows (inside : Local number state later) : Grows state later where
  setting := inside.setting
  clock := inside.clock
  active := inside.active
  main := inside.main
  owner trigger _ owned := (inside.owner_eq (Local.within_of_owner owned)).trans owned
  args trigger _ owned := by rw [inside.kept trigger (Local.within_of_owner owned)]
  outcome trigger _ outcome _ decided := by
    rw [State.outcome, inside.decided trigger outcome decided]; exact decided
  decided trigger decided := by
    obtain ⟨outcome, found⟩ := Option.ne_none_iff_exists'.mp decided
    rw [State.outcome, inside.decided trigger outcome found]; exact decided
  thread trigger := by
    by_cases within : trigger < state.triggers.size
    · rw [inside.kept trigger within]; exact .inl rfl
    · have absent := state.trigger_of_le (Nat.le_of_not_lt within)
      rcases inside.born trigger (Nat.le_of_not_lt within) with same | ⟨-, -, thread⟩
      · rw [same, absent]; exact .inl rfl
      · rw [absent]
        rcases thread with unstarted | suspended
        · exact .inl unstarted
        · exact .inr ⟨rfl, suspended⟩

theorem commit_grows (state : State) (trigger : Nat) {decided : Outcome}
    (own : decided ≠ .redirect) : Grows state (state.commit trigger decided none).1 := by
  cases owned : state.owner trigger with
  | none => exact Neutral.grows (.commit owned decided (by rintro _ ⟨⟩))
  | some number =>
    exact Local.grows (.commit owned decided fun same => absurd same own)

theorem complain_grows (state : State) (trigger : Nat) (target : Work) (stage : String)
    (failure : Failure) : Grows state (state.complain trigger target stage failure).1 := by
  rcases state.complain_state trigger target stage failure with unmoved | ⟨number, report, same⟩
  · exact unmoved.neutral.grows
  · rw [same]
    exact (abandonChain_local _ _ _ report).grows

/-- What a frame needs where it stands. -/
def Fits (state : State) (agent : Agent) : Frame → Prop
  | .countdown trigger | .waited trigger => agent = .thread trigger
  | .dispatched trigger _ => agent = .thread trigger ∧ state.outcome trigger ≠ none
  | .call (.fire number trigger) args => agent = .thread trigger ∧
      state.owner trigger = some number ∧ state.outcome trigger = some .proceed ∧
      args = (state.trigger trigger).args
  | .call (.settle number trigger) args => agent = .thread trigger ∧
      state.owner trigger = some number ∧ state.outcome trigger = some .redirect ∧
      args = (state.trigger trigger).args
  | .fired number trigger args _ _ => agent = .thread trigger ∧
      state.owner trigger = some number ∧ state.outcome trigger = some .proceed ∧
      args = (state.trigger trigger).args
  | .callback number work _ => work.isCallback = true ∧
      ∃ trigger, agent = .thread trigger ∧ state.owner trigger = some number
  | _ => True

theorem fits_of_isCommon (state : State) (agent : Agent) {frame : Frame}
    (common : frame.isCommon = true) : Fits state agent frame := by
  cases frame with
  | call work args => cases work <;> trivial
  | _ => trivial

theorem Move.IsPlain.fits {move : Move} (plain : move.IsPlain) (state : State) (agent : Agent) :
    ∀ added ∈ move.frames, Fits state agent added :=
  fun added member =>
    fits_of_isCommon state agent (Frame.isCommon_of_isPlain (plain added member))

theorem Grows.fits (grows : Grows state later) {frame : Frame} (fits : Fits state agent frame) :
    Fits later agent frame := by
  have moved : ∀ {trigger number : Nat} {outcome : Outcome} {args : List Value},
      agent = .thread trigger ∧ state.owner trigger = some number ∧
        state.outcome trigger = some outcome ∧ args = (state.trigger trigger).args →
      agent = .thread trigger ∧ later.owner trigger = some number ∧
        later.outcome trigger = some outcome ∧ args = (later.trigger trigger).args := by
    rintro trigger number outcome args ⟨own, owned, decided, same⟩
    exact ⟨own, grows.owner _ _ owned, grows.outcome _ _ _ owned decided,
      same.trans (grows.args _ _ owned).symm⟩
  cases frame with
  | countdown trigger => exact fits
  | waited trigger => exact fits
  | dispatched trigger target => exact ⟨fits.1, grows.decided trigger fits.2⟩
  | call work args =>
    cases work with
    | fire number trigger => exact moved fits
    | settle number trigger => exact moved fits
    | _ => trivial
  | fired number trigger args mode work => exact moved fits
  | callback number work args =>
    obtain ⟨called, trigger, own, owned⟩ := fits
    exact ⟨called, trigger, own, grows.owner _ _ owned⟩
  | _ => trivial

theorem Shift.fits (shift : Shift state later) {frame : Frame} (fits : Fits state agent frame) :
    Fits later agent frame := by
  cases frame with
  | dispatched trigger target => exact ⟨fits.1, by rw [shift.outcome]; exact fits.2⟩
  | call work args =>
    cases work with
    | fire number trigger =>
      simpa only [Fits, shift.owner, shift.outcome, shift.args] using fits
    | settle number trigger =>
      simpa only [Fits, shift.owner, shift.outcome, shift.args] using fits
    | _ => trivial
  | fired number trigger args mode work =>
    simpa only [Fits, shift.owner, shift.outcome, shift.args] using fits
  | callback number work args => simpa only [Fits, shift.owner] using fits
  | _ => exact fits

/-! ### Chains stay bound -/

namespace Linked

theorem startChain (linked : Linked state) (member : number ∈ state.registered)
    (idle : (state.entry number).isRunning = false) (mode : Mode) (args : List Value) :
    Linked (state.startChain number mode args).1 := by
  have within := linked.tidy.range number member
  have stopped : (state.entry number).chain.status ≠ .running := by
    simpa [Entry.isRunning, Entry.chain] using idle
  have begun := linked.updateEntry (begin_local mode member)
    ((linked.tasks number).begins stopped mode)
  obtain ⟨_, arming⟩ := startChain_arming mode args idle
  refine begun.arming ?_ ?_ ?_ arming
  · exact (linked.tasks number).settled_of_idle stopped
  · exact Nat.lt_of_lt_of_eq within (Store.size_update ..).symm
  · rw [entry_updateEntry_self within]; rfl

theorem effect {deeds : List Deed} (effect : Effect state deeds later) :
    (linked : Linked state) → Linked later := by
  induction effect with
  | neutral neutral => exact fun linked => linked.neutral neutral
  | start mode args member idle => exact fun linked => linked.startChain member idle mode args
  | stop running held called => exact fun linked => linked.stopChain running held called
  | trans _ _ first second => exact fun linked => second (first linked)

theorem complain (linked : Linked state) {trigger : Nat}
    (decided : state.outcome trigger ≠ none) (target : Work) (stage : String)
    (failure : Failure) : Linked (state.complain trigger target stage failure).1 := by
  rcases state.complain_state trigger target stage failure with unmoved | ⟨number, report, same⟩
  · exact linked.neutral unmoved.neutral
  · rw [same]
    exact linked.abandonChain decided report

theorem ending (linked : Linked state) {trigger : Nat} {args : List Value} {mode : Mode}
    {outcome : Signal} {move : Move} (decided : state.outcome trigger ≠ none)
    (ending : Ending state number trigger args mode outcome later move) : Linked later := by
  cases ending with
  | goesOn noted running held arming failed done =>
    have neutral := noted.neutral
    have counted := linked.neutral neutral
    have status : (state.entry number).status = .running := by simpa [Entry.isRunning] using running
    have within := linked.tidy.range number (linked.tidy.running number running)
    refine counted.arming ?_ (Nat.lt_of_lt_of_le within neutral.entries)
      ((neutral.status number).trans status) arming
    exact (counted.tasks number).settled_of_held ((neutral.held number).trans held)
      (neutral.decided trigger decided)
  | finished reports noted finished =>
    exact (linked.neutral noted.neutral).endChain (noted.neutral.decided trigger decided)

end Linked

theorem Effect.grows {deeds : List Deed} (effect : Effect state deeds later) :
    (linked : Linked state) → Grows state later := by
  induction effect with
  | neutral neutral => exact fun _ => neutral.grows
  | start mode args member idle => exact fun _ => (startChain_local mode args member idle).grows
  | @stop state number trigger callback running held called =>
    intro linked
    have owned := ((linked.tasks number).held trigger held).1
    exact (stopChain_local running held owned callback).grows
  | trans earlier _ first second =>
    exact fun linked => (first linked).trans (second (linked.effect earlier))

theorem Effect.now {deeds : List Deed} (effect : Effect state deeds later)
    (linked : Linked state) : later.setting = state.setting ∧ later.now = state.now := by
  have grows := effect.grows linked
  exact ⟨grows.setting, by rw [State.now, grows.setting, grows.clock]; rfl⟩

/-! ### Replies -/

/-- What holds in every state. -/
structure Sound (state : State) : Prop where
  linked : Linked state
  awake : state.Awake
  fits : ∀ agent, ∀ frame ∈ state.stackOf agent, Fits state agent frame

theorem Sound.fits_active (sound : Sound state) {stack : List Frame} {signal : Signal}
    (active : state.active = some ⟨agent, stack, signal⟩) : ∀ frame ∈ stack, Fits state agent frame :=
  fun frame member => sound.fits agent frame (stackOf_active active ▸ member)

theorem CountsDown.agent_eq {frame : Frame} {trigger : Nat} (counts : frame.CountsDown trigger)
    (fits : Fits state agent frame) : agent = .thread trigger := by
  cases counts <;> exact fits

theorem CountsDown.within {frame : Frame} {trigger : Nat} {rest : List Frame} {signal : Signal}
    (sound : Sound state) (active : state.active = some ⟨agent, frame :: rest, signal⟩)
    (counts : frame.CountsDown trigger) : trigger < state.triggers.size := by
  obtain rfl := CountsDown.agent_eq counts (sound.fits_active active frame List.mem_cons_self)
  exact within_of_isStarted (isStarted_of_running (sound.awake trigger _ _ active))

theorem Sound.stackOf_thread (sound : Sound state) {trigger : Nat}
    (resting : (state.trigger trigger).thread ≠ .running) :
    state.stackOf (.thread trigger) = (state.trigger trigger).thread.stack := by
  cases running : state.active with
  | none => exact stackOf_none running
  | some activity =>
    obtain ⟨agent, stack, signal⟩ := activity
    refine stackOf_other running ?_
    rintro rfl
    exact resting (sound.awake trigger stack signal running)

theorem stackOf_ended {trigger : Nat} (sound : Sound state)
    (ended : (state.trigger trigger).thread = .ended) :
    state.stackOf (.thread trigger) = [] := by
  rw [sound.stackOf_thread (by rw [ended]; rintro ⟨⟩), ended]
  rfl

theorem Reply.grows {signal : Signal} {frame : Frame} {move : Move} (linked : Linked state)
    (reply : Reply state agent signal frame later move) : Grows state later := by
  cases reply with
  | plain _ _ unmoved => exact unmoved.neutral.grows
  | request _ effect => exact effect.grows linked
  | passed => exact .refl _
  | dispatched => exact .refl _
  | calledBack => exact .refl _
  | waits _ _ _ _ unmoved => exact unmoved.neutral.grows
  | proceeds => exact commit_grows _ _ (by decide)
  | obeys _ _ unmoved => exact unmoved.neutral.grows
  | cancelled _ _ _ unmoved => exact unmoved.neutral.grows
  | breaks => exact (commit_grows _ _ (by decide)).trans (complain_grows _ _ _ _ _)
  | complains => exact complain_grows _ _ _ _ _
  | fires _ unmoved => exact (Neutral.noteRun _ _ _).grows.trans unmoved.neutral.grows
  | misfires => exact .refl _
  | settles number trigger args => exact (endChain_local _ _ _).grows
  | ran number trigger args mode work =>
    exact (endRun_ending _ _ _ _ _ _ _).local.grows
  | callsBack _ _ _ unmoved => exact unmoved.neutral.grows
  | regrets => exact (Neutral.countError _ _ _).grows

theorem Reply.linked {signal : Signal} {frame : Frame} {move : Move} (linked : Linked state)
    (fits : Fits state agent frame)
    (within : ∀ trigger, frame.CountsDown trigger → trigger < state.triggers.size)
    (reply : Reply state agent signal frame later move) : Linked later := by
  cases reply with
  | plain _ _ unmoved => exact linked.neutral unmoved.neutral
  | request _ effect => exact linked.effect effect
  | passed => exact linked
  | dispatched => exact linked
  | calledBack => exact linked
  | waits _ _ _ _ unmoved => exact linked.neutral unmoved.neutral
  | proceeds => exact linked.commit _ (by decide)
  | obeys _ _ unmoved => exact linked.neutral unmoved.neutral
  | cancelled _ _ _ unmoved => exact linked.neutral unmoved.neutral
  | breaks fault counts undecided =>
    refine (linked.commit _ (by decide)).complain ?_ _ _ _
    rw [outcome_commit (within _ counts), if_pos rfl]
    rintro ⟨⟩
  | complains trigger target mild => exact linked.complain fits.2 _ _ _
  | fires _ unmoved => exact (linked.neutral (.noteRun _ _ _)).neutral unmoved.neutral
  | misfires => exact linked
  | settles number trigger args =>
    exact linked.endChain (by rw [fits.2.2.1]; rintro ⟨⟩)
  | ran number trigger args mode work mild =>
    exact linked.ending (by rw [fits.2.2.1]; rintro ⟨⟩) (endRun_ending _ _ _ _ _ _ _)
  | callsBack _ _ _ unmoved => exact linked.neutral unmoved.neutral
  | regrets => exact linked.neutral (.countError _ _ _)

theorem Linked.fits_callback (linked : Linked state) {trigger : Nat}
    (owned : later.owner trigger = some number) {work : Work}
    (found : (state.entry number).stopCallback? trigger = some work) (args : List Value) :
    Fits later (.thread trigger) (.callback number work args) :=
  ⟨((linked.tasks number).stops _ (mem_of_lookup found)).2.2.2, trigger, rfl, owned⟩

theorem Linked.fits_complain (linked : Linked state) (trigger : Nat) (target : Work)
    (stage : String) (failure : Failure) {frame : Frame}
    (member : frame ∈ (state.complain trigger target stage failure).2.frames) :
    Fits (state.complain trigger target stage failure).1 (.thread trigger) frame := by
  rcases mem_complain member with plain | ⟨number, work, owned, found, rfl⟩
  · exact fits_of_isCommon _ _ (Frame.isCommon_of_isPlain plain)
  · exact linked.fits_callback ((complain_grows ..).owner _ _ owned) found _

theorem Ending.fits {trigger : Nat} {args : List Value} {mode : Mode} {outcome : Signal}
    {move : Move} (linked : Linked state) (owned : state.owner trigger = some number)
    (ending : Ending state number trigger args mode outcome later move) :
    ∀ added ∈ move.frames, Fits later (.thread trigger) added := by
  intro added member
  rcases ending.mem_frames member with plain | ⟨work, found, rfl⟩
  · exact fits_of_isCommon _ _ (Frame.isCommon_of_isPlain plain)
  · exact linked.fits_callback (ending.local.grows.owner _ _ owned) found _

theorem target?_cases {trigger : Nat} {target : Work}
    (called : (state.trigger trigger).target? = some target) :
    state.outcome trigger = some .proceed ∧ target = (state.trigger trigger).work ∨
      state.outcome trigger = some .redirect ∧
        (state.trigger trigger).decision.callback = some target := by
  unfold Trigger.target? at called
  split at called
  · next proceed => cases called; exact .inl ⟨proceed, rfl⟩
  · next redirect found => cases called; exact .inr ⟨redirect, found⟩
  · cases called

theorem target?_decided {trigger : Nat} {target : Work}
    (called : (state.trigger trigger).target? = some target) : state.outcome trigger ≠ none := by
  rcases target?_cases called with ⟨decided, -⟩ | ⟨decided, -⟩ <;>
    · rw [decided]; rintro ⟨⟩

theorem Linked.target?_free (linked : Linked state) {trigger : Nat} {target : Work}
    (called : (state.trigger trigger).target? = some target)
    (free : state.owner trigger = none) : target.isCallback = true := by
  obtain ⟨given, callback⟩ := linked.tidy.free trigger free
  rcases target?_cases called with ⟨-, rfl⟩ | ⟨-, found⟩
  · exact Work.isCallback_of_isGiven given
  · exact Work.isCallback_of_isGiven (callback target found)

theorem Linked.target?_owned (linked : Linked state) {trigger : Nat} {target : Work}
    (called : (state.trigger trigger).target? = some target)
    (owned : state.owner trigger = some number) :
    state.outcome trigger = some .proceed ∧ target = .fire number trigger ∨
      state.outcome trigger = some .redirect ∧ target = .settle number trigger := by
  rcases target?_cases called with ⟨proceed, rfl⟩ | ⟨redirect, found⟩
  · exact .inl ⟨proceed, linked.work trigger number owned⟩
  · have settles := linked.redirect trigger number owned redirect
    exact .inr ⟨redirect, Option.some.inj (found.symm.trans settles)⟩

theorem Reply.fits {signal : Signal} {frame : Frame} {move : Move} (linked : Linked state)
    (fits : Fits state agent frame)
    (within : ∀ trigger, frame.CountsDown trigger → trigger < state.triggers.size)
    (reply : Reply state agent signal frame later move) :
    ∀ added ∈ move.frames, Fits later agent added := by
  have own : ∀ {trigger}, frame.CountsDown trigger → agent = .thread trigger := by
    rintro trigger (_ | _) <;> exact fits
  cases reply with
  | plain _ _ _ plain => exact Move.IsPlain.fits plain _ _
  | request _ _ plain => exact Move.IsPlain.fits plain _ _
  | passed => exact fun added member => absurd member List.not_mem_nil
  | dispatched => exact fun added member => absurd member List.not_mem_nil
  | calledBack => exact fun added member => absurd member List.not_mem_nil
  | waits pause deadline counts =>
    intro added member
    rw [List.mem_singleton.mp member]
    exact own counts
  | @proceeds _ _ trigger counts undecided =>
    have mine := own counts
    have decided := outcome_commit (within _ counts) .proceed none trigger
    rw [if_pos rfl, undecided] at decided
    intro added member
    rcases List.mem_cons.mp member with rfl | member
    · cases owned : state.owner trigger with
      | none =>
        apply fits_of_isCommon
        exact Work.isCallback_of_isGiven (linked.tidy.free trigger owned).1
      | some number =>
        rw [linked.work trigger number owned]
        exact ⟨mine, (owner_commit _ _ _ _ _).trans owned, decided,
          by rw [commit_keeps]⟩
    · rw [List.mem_singleton.mp member]
      exact ⟨mine, by rw [decided]; rintro ⟨⟩⟩
  | @obeys _ _ trigger target _ counts called unmoved =>
    have mine := own counts
    have kept := unmoved.neutral.grows
    have decided := target?_decided called
    intro added member
    rcases List.mem_cons.mp member with rfl | member
    · apply kept.fits
      cases owned : state.owner trigger with
      | none => exact fits_of_isCommon _ _ (linked.target?_free called owned)
      | some number =>
        rcases linked.target?_owned called owned with ⟨proceed, rfl⟩ | ⟨redirect, rfl⟩
        · exact ⟨mine, owned, proceed, rfl⟩
        · exact ⟨mine, owned, redirect, rfl⟩
    · rw [List.mem_singleton.mp member]
      exact ⟨mine, kept.decided trigger decided⟩
  | cancelled => exact fun added member => absurd member List.not_mem_nil
  | breaks fault counts =>
    have mine := own counts
    subst mine
    exact fun added => (linked.commit _ (by decide)).fits_complain _ _ _ _
  | complains trigger target =>
    have mine := fits.1
    subst mine
    exact fun added => linked.fits_complain _ _ _ _
  | @fires _ number trigger args time _ now unmoved =>
    have kept := (Neutral.noteRun state number time).grows.trans unmoved.neutral.grows
    intro added member
    rcases List.mem_cons.mp member with rfl | member
    · apply fits_of_isCommon
      exact Work.isCallback_of_isGiven (linked.tidy.works number)
    · rw [List.mem_singleton.mp member]
      exact kept.fits (show Fits state _ (.fired number trigger args (state.entry number).mode
        (state.entry number).work) from fits)
  | misfires => exact fun added member => absurd member List.not_mem_nil
  | settles number trigger args =>
    obtain ⟨mine, owned, -⟩ := fits
    subst mine
    have kept := (endChain_local state number trigger).grows.owner _ _ owned
    intro added member
    obtain ⟨work, found, rfl⟩ := mem_callbackFrames member
    exact linked.fits_callback kept found args
  | ran number trigger args mode work =>
    obtain ⟨mine, owned, -⟩ := fits
    subst mine
    exact (endRun_ending _ _ _ _ _ _ _).fits linked owned
  | callsBack number work args =>
    intro added member
    rcases List.mem_cons.mp member with rfl | member
    · exact fits_of_isCommon _ _ fits.1
    · rw [List.mem_singleton.mp member]; trivial
  | regrets =>
    intro added member
    rw [List.mem_singleton.mp member]; trivial

/-! ### Steps -/

theorem parked_initial (setting : Setting) (agent : Agent) :
    (State.initial setting).stackOf agent = [] := by
  cases agent <;> rfl

theorem Bound.initial (setting : Setting) (number : Nat) :
    Bound (.initial setting) number (default : Entry).chain where
  armed _ owned := by cases owned
  held _ held := by cases held
  stops _ member := absurd member List.not_mem_nil
  settling _ _ held := by cases held
  redirected _ held := by cases held
  planned planned := absurd rfl planned

theorem Sound.initial (setting : Setting) : Sound (.initial setting) where
  linked := {
    tidy := {
      works := fun _ => rfl
      free := fun _ _ => ⟨rfl, fun _ called => by cases called⟩
      labels := fun _ member => absurd member List.not_mem_nil
      range := fun _ member => absurd member List.not_mem_nil
      unique := fun _ member => absurd member List.not_mem_nil
      running := fun _ running => by cases running }
    range := fun _ _ owned => by cases owned
    work := fun _ _ owned => by cases owned
    redirect := fun _ _ owned => by cases owned
    tasks := Bound.initial setting }
  awake := by rintro _ _ _ ⟨⟩
  fits agent frame member := by rw [parked_initial] at member; cases member

theorem Sound.turns (linked : Linked state) {stack : List Frame} {signal : Signal}
    (turns : Turns state later agent stack signal)
    (own : ∀ frame ∈ stack, Fits state agent frame)
    (others : ∀ other, other ≠ agent → ∀ frame ∈ state.stackOf other, Fits state other frame) :
    Sound later where
  linked := linked.shift turns.toShift
  awake := turns.awake
  fits other frame member := by
    by_cases same : other = agent
    · subst same
      rw [turns.stack] at member
      exact turns.toShift.fits (own frame member)
    · rw [turns.otherStacks other same] at member
      exact turns.toShift.fits (others other same frame member)

theorem Grows.stackOf (grows : Grows state later) {stack : List Frame} {signal : Signal}
    (active : state.active = some ⟨agent, stack, signal⟩) {other : Agent}
    (different : other ≠ agent) : later.stackOf other = state.stackOf other ∨
      ∃ trigger, other = .thread trigger ∧ state.isStarted trigger = false ∧
        later.stackOf other = [.countdown trigger] := by
  rw [stackOf_other active different, stackOf_other (grows.active.trans active) different]
  cases other with
  | main => exact .inl (by simp only [parked, grows.main])
  | thread trigger =>
    rcases grows.thread trigger with same | ⟨unstarted, started⟩
    · exact .inl (by simp only [parked, same])
    · refine .inr ⟨trigger, rfl, ?_, by simp only [parked, started, Thread.stack]⟩
      simp only [State.isStarted, unstarted]

theorem Grows.awake (grows : Grows state later) (awake : state.Awake) : later.Awake := by
  intro trigger stack signal active
  have running := awake trigger stack signal (grows.active.symm.trans active)
  rcases grows.thread trigger with same | ⟨unstarted, -⟩
  · exact same.trans running
  · rw [running] at unstarted; cases unstarted

structure Replied (state later next : State) (agent : Agent) (frame : Frame)
    (rest : List Frame) (signal : Signal) (move : Move) : Prop where
  active : state.active = some ⟨agent, frame :: rest, signal⟩
  reply : Reply state agent signal frame later move
  turns : Turns later next agent (move.frames ++ rest) move.signal

theorem Sound.replied (sound : Sound state) {frame : Frame} {rest : List Frame}
    {signal : Signal} (active : state.active = some ⟨agent, frame :: rest, signal⟩) :
    Replied state (state.answer agent signal frame).1
      ((state.answer agent signal frame).1.make agent rest (state.answer agent signal frame).2)
      agent frame rest signal (state.answer agent signal frame).2 := by
  have reply := answer_reply agent sound.linked.tidy signal frame
    fun trigger counts => CountsDown.within sound active counts
  have grows := reply.grows sound.linked
  exact ⟨active, reply, make_turns (grows.awake sound.awake) (grows.active.trans active) _ _⟩

theorem Sound.replied_step (sound : Sound state) {next : State} {frame : Frame} {rest : List Frame}
    {signal : Signal} (active : state.active = some ⟨agent, frame :: rest, signal⟩)
    (stepped : state.step = some next) :
    Replied state (state.answer agent signal frame).1 next agent frame rest signal
      (state.answer agent signal frame).2 := by
  rw [eq_of_active active stepped]
  exact sound.replied active

theorem Replied.fits {next : State} {frame : Frame} {rest : List Frame} {signal : Signal}
    {move : Move} (sound : Sound state)
    (replied : Replied state later next agent frame rest signal move) :
    Fits state agent frame :=
  sound.fits_active replied.active frame List.mem_cons_self

theorem Replied.sound {next : State} {frame : Frame} {rest : List Frame} {signal : Signal}
    {move : Move} (sound : Sound state)
    (replied : Replied state later next agent frame rest signal move) : Sound next := by
  have within := fun trigger (counts : frame.CountsDown trigger) =>
    CountsDown.within sound replied.active counts
  have grows := replied.reply.grows sound.linked
  refine Sound.turns (replied.reply.linked sound.linked (replied.fits sound) within)
    replied.turns (fun added member => ?_) fun other different added member => ?_
  · rcases List.mem_append.mp member with member | member
    · exact replied.reply.fits sound.linked (replied.fits sound) within added member
    · refine grows.fits (sound.fits agent added ?_)
      rw [stackOf_active replied.active]
      exact List.mem_cons_of_mem _ member
  · rcases grows.stackOf replied.active different with same | ⟨trigger, rfl, -, started⟩
    · exact grows.fits (sound.fits other added (same ▸ member))
    · rw [started] at member
      rw [List.mem_singleton.mp member]
      rfl

theorem Sound.step {next : State} (sound : Sound state) (stepped : state.step = some next) :
    Sound next := by
  cases step_advance sound.awake stepped with
  | passes agent idle turns =>
    exact .turns sound.linked turns (sound.fits agent) fun other _ => sound.fits other
  | ends agent signal active turns =>
    exact .turns sound.linked turns (fun _ member => absurd member List.not_mem_nil)
      fun other _ => sound.fits other
  | answers agent frame rest signal active same =>
    rw [same]
    exact (sound.replied active).sound sound

theorem Sound.issue (sound : Sound state) (finished : state.mainHasFinished = true)
    (operation : Operation) : Sound (state.issue operation) := by
  refine .turns sound.linked (activateMain_turns (mainHasFinished_idle finished) _) ?_
    fun other _ => sound.fits other
  intro frame member
  rw [List.mem_singleton.mp member]
  trivial

end State

theorem Trace.sound {first : State} {past : List State} {state : State} (sound : first.Sound)
    (trace : Trace first past state) : state.Sound := by
  induction trace with
  | refl => exact sound
  | issue operation _ finished ih => exact ih.issue finished operation
  | step _ stepped ih => exact ih.step stepped

theorem Trace.sound_of_initial {setting : Setting} {past : List State} {state : State}
    (trace : Trace (.initial setting) past state) : ∀ visited ∈ state :: past, visited.Sound := by
  intro visited member
  obtain ⟨_, earlier, _⟩ := trace.visited member
  exact earlier.sound (.initial setting)

end Timetable
