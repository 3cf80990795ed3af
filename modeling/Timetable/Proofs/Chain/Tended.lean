import Timetable.Proofs.Chain.Settlement

/-! Running tasks are tended.

A task that runs holds a trigger whose thread waits for its time, or stands in its firing and will arm the
next one. Two things leave a running task without such a thread: a start that raises, and a request to
leave that comes out of a firing.
-/

set_option autoImplicit false

namespace Timetable

namespace State

/-- The thread of a trigger waits for its time, undecided, or stands in its firing of a task. -/
inductive Tends (number trigger : Nat) (standing : Standing) : Prop where
  | waits (frame : Frame) (value : Value) : frame.CountsDown trigger → standing.stack = [frame] →
      standing.signal = .ok value → standing.outcome = none → Tends number trigger standing
  | calls (args : List Value) (value : Value) :
      standing.stack = [.call (.fire number trigger) args,
        .dispatched trigger (.fire number trigger)] →
      standing.signal = .ok value → Tends number trigger standing
  | runs (above : List Frame) (args : List Value) (mode : Mode) (work : Work) :
      (∀ frame ∈ above, frame.isCommon = true) →
      standing.stack = above ++ [.fired number trigger args mode work,
        .dispatched trigger (.fire number trigger)] →
      Tends number trigger standing
  /-- The run could not be begun, or no further one could be armed. -/
  | fails (failure : Failure) :
      standing.stack = [.dispatched trigger (.fire number trigger)] →
      standing.signal = .error failure → Tends number trigger standing

/-- The thread of a trigger is done with firing: it settles a stop, or it has nothing left to do. -/
inductive Departs (number trigger : Nat) (standing : Standing) : Prop where
  | redirected (frame : Frame) (value : Value) : frame.CountsDown trigger →
      standing.stack = [frame] → standing.signal = .ok value →
      standing.outcome = some .redirect → Departs number trigger standing
  | settles (args : List Value) (value : Value) :
      standing.stack = [.call (.settle number trigger) args,
        .dispatched trigger (.settle number trigger)] →
      standing.signal = .ok value → Departs number trigger standing
  | spent : standing.stack = [] → Departs number trigger standing

def AwaitsTime (state : State) (trigger : Nat) : Prop :=
  state.outcome trigger = none ∧
    ∃ frame : Frame, frame.CountsDown trigger ∧ state.stackOf (.thread trigger) = [frame]

/-- The thread of the trigger that a task holds has been started and has not ended: it waits for the
time of the trigger, or stands in its firing of the task. -/
def IsTended (state : State) (number : Nat) : Prop :=
  ∃ trigger, (state.entry number).trigger = some trigger ∧
    (state.trigger trigger).thread.isAlive = true ∧
    (state.AwaitsTime trigger ∨
      .dispatched trigger (.fire number trigger) ∈ state.stackOf (.thread trigger))

/-- The next step leaves a task running that nobody tends. -/
inductive Deserts (state : State) (number : Nat) : Prop where
  /-- The task is started by a call that raises, and it was not tended before. -/
  | raises (agent : Agent) (frame : Frame) (rest : List Frame) (signal : Signal)
      (failure : Failure) : state.active = some ⟨agent, frame :: rest, signal⟩ →
      .started number ∈ state.deeds → (state.answer agent signal frame).2 = .fail failure →
      ¬ state.IsTended number → Deserts state number
  /-- A request to leave comes out of a firing of the task, and its thread passes it on. -/
  | quits (trigger : Nat) (rest : List Frame) (failure : Failure) :
      state.active =
        some ⟨.thread trigger, .dispatched trigger (.fire number trigger) :: rest, .error failure⟩ →
      failure.leaves = true → state.stoppable? number = some trigger → Deserts state number

/-- The thread of every trigger that a task holds is at work for the task, or done with firing. -/
def Attached (state : State) : Prop :=
  ∀ number trigger, (state.entry number).trigger = some trigger →
    Tends number trigger (state.standing number trigger) ∨
      Departs number trigger (state.standing number trigger)

variable {state later next : State} {agent : Agent} {number trigger : Nat}

/-! ### Tended tasks -/

theorem Sound.isAlive (sound : Sound state) (busy : state.stackOf (.thread trigger) ≠ []) :
    (state.trigger trigger).thread.isAlive = true := by
  cases thread : (state.trigger trigger).thread with
  | suspended stack => rfl
  | running => rfl
  | ended => exact absurd (stackOf_ended sound thread) busy
  | unstarted =>
    refine absurd ?_ busy
    rw [sound.stackOf_thread (by rw [thread]; rintro ⟨⟩), thread]
    rfl

theorem Sound.isTended (sound : Sound state) (held : (state.entry number).trigger = some trigger)
    (tends : Tends number trigger (state.standing number trigger)) : state.IsTended number := by
  have firing : .dispatched trigger (.fire number trigger) ∈ state.stackOf (.thread trigger) →
      state.IsTended number := by
    intro member
    refine ⟨trigger, held, sound.isAlive (List.ne_nil_of_mem member), .inr member⟩
  cases tends with
  | waits frame value counts stacked ok undecided =>
    have stack : state.stackOf (.thread trigger) = [frame] := stacked
    refine ⟨trigger, held, sound.isAlive ?_, .inl ⟨undecided, frame, counts, stacked⟩⟩
    rw [stack]; rintro ⟨⟩
  | calls args value stacked =>
    apply firing
    rw [show state.stackOf (.thread trigger) = _ from stacked]
    exact List.mem_cons_of_mem _ List.mem_cons_self
  | runs above args mode work common stacked =>
    apply firing
    rw [show state.stackOf (.thread trigger) = _ from stacked]
    exact List.mem_append_right _ (List.mem_cons_of_mem _ List.mem_cons_self)
  | fails failure stacked =>
    apply firing
    rw [show state.stackOf (.thread trigger) = _ from stacked]
    exact List.mem_cons_self

theorem Departs.not_isTended (departs : Departs number trigger (state.standing number trigger))
    (held : (state.entry number).trigger = some trigger) : ¬ state.IsTended number := by
  rintro ⟨other, same, -, either⟩
  obtain rfl := Option.some.inj (held.symm.trans same)
  cases departs with
  | redirected frame value counts stacked ok redirect =>
    have stack : state.stackOf (.thread trigger) = [frame] := stacked
    rcases either with ⟨undecided, -⟩ | firing
    · exact absurd (undecided.symm.trans redirect) (by rintro ⟨⟩)
    · rw [stack] at firing
      rw [← List.mem_singleton.mp firing] at counts
      cases counts
  | settles args value stacked =>
    have stack : state.stackOf (.thread trigger) = _ := stacked
    rcases either with ⟨-, frame, counts, waits⟩ | firing
    · rw [stack] at waits; cases waits
    · rw [stack] at firing
      rcases List.mem_cons.mp firing with same | firing
      · cases same
      · cases List.mem_singleton.mp firing
  | spent stacked =>
    have stack : state.stackOf (.thread trigger) = [] := stacked
    rcases either with ⟨-, frame, counts, waits⟩ | firing
    · rw [stack] at waits; cases waits
    · rw [stack] at firing; cases firing

theorem Attached.tends (attached : Attached state) (tended : state.IsTended number) :
    ∃ trigger, (state.entry number).trigger = some trigger ∧
      Tends number trigger (state.standing number trigger) := by
  obtain ⟨trigger, held, -⟩ := id tended
  rcases attached number trigger held with tends | departs
  · exact ⟨trigger, held, tends⟩
  · exact absurd tended (departs.not_isTended held)

theorem Tends.busy {standing : Standing} (tends : Tends number trigger standing) :
    standing.stack ≠ [] := by
  cases tends with
  | waits frame value counts same => rw [same]; rintro ⟨⟩
  | calls args value same => rw [same]; rintro ⟨⟩
  | runs above args mode work common same => rw [same]; cases above <;> rintro ⟨⟩
  | fails failure same => rw [same]; rintro ⟨⟩

theorem Tends.not_settling {standing : Standing} (tends : Tends number trigger standing)
    {args : List Value} {rest : List Frame}
    (stack : standing.stack = .call (.settle number trigger) args :: rest) : False := by
  cases tends with
  | waits frame value counts stacked => cases stack.symm.trans stacked; cases counts
  | calls args value stacked => cases stack.symm.trans stacked
  | runs above args mode work common stacked =>
    obtain rfl := above_eq_nil common (stack.symm.trans stacked) rfl
    cases stack.symm.trans stacked
  | fails failure stacked => cases stack.symm.trans stacked

theorem Tends.alone {standing : Standing} (tends : Tends number trigger standing) {target : Work}
    {rest : List Frame} (stack : standing.stack = .dispatched trigger target :: rest) :
    rest = [] := by
  cases tends with
  | waits frame value counts stacked => cases stack.symm.trans stacked; cases counts
  | calls args value stacked => cases stack.symm.trans stacked
  | runs above args mode work common stacked =>
    obtain rfl := above_eq_nil common (stack.symm.trans stacked) rfl
    cases stack.symm.trans stacked
  | fails failure stacked => exact (List.cons.inj (stack.symm.trans stacked)).2

theorem Departs.alone {standing : Standing} (departs : Departs number trigger standing)
    {target : Work} {rest : List Frame}
    (stack : standing.stack = .dispatched trigger target :: rest) : rest = [] := by
  cases departs with
  | redirected frame value counts stacked => cases stack.symm.trans stacked; cases counts
  | settles args value stacked => cases stack.symm.trans stacked
  | spent stacked => cases stack.symm.trans stacked

/-! ### What the thread of a trigger does -/

/-- What becomes of a thread that tends a task, by what it does itself: it goes on, its task lets go of
the trigger, or a request to leave comes out of its firing. -/
inductive GoesOn (number trigger : Nat) (frame : Frame) (signal : Signal) (later : State)
    (standing : Standing) : Prop where
  | tends : Tends number trigger standing → GoesOn number trigger frame signal later standing
  | released : (later.entry number).trigger ≠ some trigger →
      GoesOn number trigger frame signal later standing
  | quits (failure : Failure) : frame = .dispatched trigger (.fire number trigger) →
      signal = .error failure → failure.leaves = true → standing.stack = [] →
      GoesOn number trigger frame signal later standing

theorem Reply.waits_tends (linked : Linked state) (owned : state.owner trigger = some number)
    {frame : Frame} {value : Value} {move : Move} (counts : frame.CountsDown trigger)
    (undecided : state.outcome trigger = none)
    (reply : Reply state (.thread trigger) (.ok value) frame later move) :
    GoesOn number trigger frame (.ok value) later
      { later.standing number trigger with stack := move.frames ++ [], signal := move.signal } := by
  cases reply.counted counts with
  | waits pause deadline _ unmoved =>
    exact .tends (.waits (.waited trigger) .null (.waited trigger) rfl rfl
      ((unmoved.outcome trigger).trans undecided))
  | proceeds =>
    refine .tends (.calls (state.trigger trigger).args .null ?_ rfl)
    rw [linked.work trigger number owned]
    rfl
  | obeys called => exact absurd undecided (target?_decided called)
  | cancelled decided => exact absurd undecided decided
  | breaks fault =>
    exact .released (complain_takes (linked.commit trigger (by decide))
      ((owner_commit state trigger .cancel none trigger).trans owned) _ _ _).2.1

theorem Reply.calls_tends (linked : Linked state) {args : List Value} {value : Value}
    {move : Move}
    (reply : Reply state (.thread trigger) (.ok value) (.call (.fire number trigger) args) later
      move) :
    GoesOn number trigger (.call (.fire number trigger) args) (.ok value) later
      { later.standing number trigger with
        stack := move.frames ++ [.dispatched trigger (.fire number trigger)]
        signal := move.signal } := by
  rcases reply.of_fire with ⟨fault, -, -, rfl⟩ | ⟨time, -, -, rfl⟩
  · exact .tends (.fails fault.failure rfl rfl)
  · refine .tends (.runs [.call (state.entry number).work args] args (state.entry number).mode
      (state.entry number).work (fun frame member => ?_) rfl)
    rw [List.mem_singleton.mp member]
    exact Work.isCallback_of_isGiven (linked.tidy.works number)

/-- A run has come to its end: the next trigger is armed or the chain is over, unless the end of the run
fails. -/
theorem Reply.runs_tends (linked : Linked state) (owned : state.owner trigger = some number)
    {args : List Value} {mode : Mode} {work : Work} {signal : Signal} {move : Move}
    (reply : Reply state (.thread trigger) signal (.fired number trigger args mode work) later
      move) :
    GoesOn number trigger (.fired number trigger args mode work) signal later
      { later.standing number trigger with
        stack := move.frames ++ [.dispatched trigger (.fire number trigger)]
        signal := move.signal } := by
  have within := linked.range trigger number owned
  have old := Local.within_of_owner owned
  rcases reply.of_fired with ⟨failure, -, -, -, rfl⟩ | ended
  · exact .tends (.fails failure rfl rfl)
  have ending : Ending state number trigger args mode signal later move := by
    simpa only [← ended] using endRun_ending state number trigger args mode work signal
  cases ending with
  | @goesOn noted _ armed _ counted _ _ arming failed =>
    have neutral := counted.neutral
    cases armed with
    | error failure =>
      rw [failed failure rfl]
      exact .tends (.fails failure rfl rfl)
    | ok report =>
      exact .released (arming.releases (Nat.lt_of_lt_of_le within neutral.entries)
        (Nat.lt_of_lt_of_le old neutral.triggers))
  | finished reports counted =>
    exact .released
      (endChain_takes (Nat.lt_of_lt_of_le within counted.neutral.entries) trigger).2

theorem Reply.fails_tends (linked : Linked state) (owned : state.owner trigger = some number)
    {failure : Failure} {move : Move}
    (reply : Reply state (.thread trigger) (.error failure)
      (.dispatched trigger (.fire number trigger)) later move) :
    GoesOn number trigger (.dispatched trigger (.fire number trigger)) (.error failure) later
      { later.standing number trigger with
        stack := move.frames ++ [], signal := move.signal } := by
  rcases reply.of_dispatched with ⟨value, done, -⟩ | ⟨other, failed, either⟩
  · cases done
  obtain rfl := Except.error.inj failed
  rcases either with ⟨leaves, -, rfl⟩ | ⟨-, complained⟩
  · exact .quits failure rfl rfl leaves rfl
  · have released := (complain_takes linked owned (.fire number trigger) "running" failure).2.1
    rw [← complained] at released
    exact .released released

/-- A thread that tends its task goes on, unless its task lets go of the trigger or a request to leave
comes out of its firing. -/
theorem Sound.goesOn (sound : Sound state) {frame : Frame} {rest : List Frame} {signal : Signal}
    (active : state.active = some ⟨.thread trigger, frame :: rest, signal⟩)
    (owned : state.owner trigger = some number)
    (tends : Tends number trigger (state.standing number trigger)) :
    GoesOn number trigger frame signal (state.answer (.thread trigger) signal frame).1
      { (state.answer (.thread trigger) signal frame).1.standing number trigger with
        stack := (state.answer (.thread trigger) signal frame).2.frames ++ rest
        signal := (state.answer (.thread trigger) signal frame).2.signal } := by
  have linked := sound.linked
  have reply := (sound.replied active).reply
  have stack : (state.standing number trigger).stack = frame :: rest := stackOf_active active
  have given : (state.standing number trigger).signal = signal := signalOf_active active
  generalize (state.answer (.thread trigger) signal frame).1 = later at reply ⊢
  generalize (state.answer (.thread trigger) signal frame).2 = move at reply ⊢
  cases tends with
  | waits first value counts stacked ok undecided =>
    obtain ⟨rfl, rfl⟩ := List.cons.inj (stack.symm.trans stacked)
    obtain rfl := given.symm.trans ok
    exact reply.waits_tends linked owned counts undecided
  | calls args value stacked ok =>
    obtain ⟨rfl, rfl⟩ := List.cons.inj (stack.symm.trans stacked)
    obtain rfl := given.symm.trans ok
    exact reply.calls_tends linked
  | runs above args mode work common stacked =>
    cases above with
    | nil =>
      obtain ⟨rfl, rfl⟩ := List.cons.inj (stack.symm.trans stacked)
      exact reply.runs_tends linked owned
    | cons first above =>
      -- Whatever the program does in the firing stays above it.
      obtain ⟨rfl, rfl⟩ := List.cons.inj (stack.symm.trans stacked)
      obtain ⟨plain, -⟩ := reply.of_isCommon (common frame List.mem_cons_self)
      refine .tends (.runs (move.frames ++ above) args mode work (fun other member => ?_)
        (List.append_assoc ..).symm)
      rcases List.mem_append.mp member with member | member
      · exact Frame.isCommon_of_isPlain (plain other member)
      · exact common other (List.mem_cons_of_mem _ member)
  | fails failure stacked failed =>
    obtain ⟨rfl, rfl⟩ := List.cons.inj (stack.symm.trans stacked)
    obtain rfl := given.symm.trans failed
    exact reply.fails_tends linked owned

/-- A thread that is done with firing comes to its end, or its task lets go of the trigger. -/
theorem Sound.departs (sound : Sound state) {frame : Frame} {rest : List Frame} {signal : Signal}
    (active : state.active = some ⟨.thread trigger, frame :: rest, signal⟩)
    (owned : state.owner trigger = some number)
    (departs : Departs number trigger (state.standing number trigger)) :
    Departs number trigger
        { (state.answer (.thread trigger) signal frame).1.standing number trigger with
          stack := (state.answer (.thread trigger) signal frame).2.frames ++ rest
          signal := (state.answer (.thread trigger) signal frame).2.signal } ∨
      ((state.answer (.thread trigger) signal frame).1.entry number).trigger ≠ some trigger := by
  have linked := sound.linked
  have reply := (sound.replied active).reply
  have stack : (state.standing number trigger).stack = frame :: rest := stackOf_active active
  have given : (state.standing number trigger).signal = signal := signalOf_active active
  generalize (state.answer (.thread trigger) signal frame).1 = later at reply ⊢
  generalize (state.answer (.thread trigger) signal frame).2 = move at reply ⊢
  cases departs with
  | spent stacked => cases stack.symm.trans stacked
  | redirected first value counts stacked ok redirect =>
    obtain ⟨rfl, rfl⟩ := List.cons.inj (stack.symm.trans stacked)
    obtain rfl := given.symm.trans ok
    obtain ⟨-, rfl⟩ := reply.redirected linked owned counts redirect
    exact .inl (.settles _ .null rfl rfl)
  | settles args value stacked ok =>
    obtain ⟨rfl, rfl⟩ := List.cons.inj (stack.symm.trans stacked)
    obtain rfl := given.symm.trans ok
    obtain ⟨rfl, -⟩ := reply.of_settle
    exact .inr (endChain_takes (linked.range trigger number owned) trigger).2

/-! ### Steps -/

/-- A thread that is not at work stands as it did, but that its trigger may be stopped. -/
theorem Sound.standing_aside (sound : Sound state) {frame : Frame} {rest : List Frame}
    {signal : Signal} (active : state.active = some ⟨agent, frame :: rest, signal⟩)
    (held : (state.entry number).trigger = some trigger) (other : agent ≠ .thread trigger) :
    ((state.answer agent signal frame).1.standing number trigger).stack =
        (state.standing number trigger).stack ∧
      ((state.answer agent signal frame).1.standing number trigger).signal =
        (state.standing number trigger).signal := by
  have grows := (sound.replied active).reply.grows sound.linked
  obtain ⟨-, started⟩ := (sound.linked.tasks number).held trigger held
  refine ⟨?_, ?_⟩
  · rcases grows.stackOf active (Ne.symm other) with same | ⟨begun, mine, unstarted, -⟩
    · exact same
    · cases mine
      rw [started] at unstarted
      cases unstarted
  · exact (signalOf_other (grows.active.trans active) (Ne.symm other)).trans
      (signalOf_other active (Ne.symm other)).symm

theorem Tends.congr {before after : Standing} (tends : Tends number trigger before)
    (stack : after.stack = before.stack) (signal : after.signal = before.signal)
    (outcome : after.outcome = before.outcome) : Tends number trigger after := by
  cases tends with
  | waits frame value counts stacked ok undecided =>
    exact .waits frame value counts (stack.trans stacked) (signal.trans ok)
      (outcome.trans undecided)
  | calls args value stacked ok => exact .calls args value (stack.trans stacked) (signal.trans ok)
  | runs above args mode work common stacked =>
    exact .runs above args mode work common (stack.trans stacked)
  | fails failure stacked failed => exact .fails failure (stack.trans stacked) (signal.trans failed)

theorem Tends.stopped {before after : Standing} (tends : Tends number trigger before)
    (stack : after.stack = before.stack) (signal : after.signal = before.signal)
    (outcome : after.outcome = some (before.outcome.getD .redirect)) :
    Tends number trigger after ∨ Departs number trigger after := by
  cases tends with
  | waits frame value counts stacked ok undecided =>
    rw [undecided] at outcome
    exact .inr (.redirected frame value counts (stack.trans stacked) (signal.trans ok) outcome)
  | calls args value stacked ok =>
    exact .inl (.calls args value (stack.trans stacked) (signal.trans ok))
  | runs above args mode work common stacked =>
    exact .inl (.runs above args mode work common (stack.trans stacked))
  | fails failure stacked failed =>
    exact .inl (.fails failure (stack.trans stacked) (signal.trans failed))

theorem Departs.congr {before after : Standing} (departs : Departs number trigger before)
    (stack : after.stack = before.stack) (signal : after.signal = before.signal)
    (outcome : after.outcome = before.outcome ∨
      after.outcome = some (before.outcome.getD .redirect)) : Departs number trigger after := by
  cases departs with
  | redirected frame value counts stacked ok redirect =>
    refine .redirected frame value counts (stack.trans stacked) (signal.trans ok) ?_
    rw [redirect] at outcome
    exact outcome.elim id id
  | settles args value stacked ok => exact .settles args value (stack.trans stacked) (signal.trans ok)
  | spent stacked => exact .spent (stack.trans stacked)

def Quits (state : State) (number trigger : Nat) : Prop :=
  ∃ rest failure, state.active =
      some ⟨.thread trigger, .dispatched trigger (.fire number trigger) :: rest, .error failure⟩ ∧
    failure.leaves = true

/-- What becomes in a step of the thread of a trigger that its task goes on holding. -/
theorem Sound.onward (sound : Sound state) (stepped : state.step = some next)
    (held : (state.entry number).trigger = some trigger)
    (holds : (next.entry number).trigger = some trigger)
    (tends : Tends number trigger (state.standing number trigger)) :
    Tends number trigger (next.standing number trigger) ∨
      Departs number trigger (next.standing number trigger) ∧
        (state.Quits number trigger ∨ next.stoppable? number ≠ some trigger) := by
  cases step_advance sound.awake stepped with
  | passes agent idle turns =>
    have same := turns.standing_idle idle number trigger
    exact .inl (same ▸ tends)
  | ends agent signal active turns =>
    by_cases own : agent = .thread trigger
    · subst own
      exact absurd (stackOf_active active) tends.busy
    · rw [turns.standing_other own]
      exact .inl tends
  | answers agent frame rest signal active same =>
    have turns := (sound.replied active).turns
    rw [← same] at turns
    have owned := ((sound.linked.tasks number).held trigger held).1
    by_cases own : agent = .thread trigger
    · subst own
      rw [turns.standing]
      -- The thread is at work itself; what others do to it is at most a stop.
      cases sound.goesOn active owned tends with
      | tends tends => exact .inl tends
      | released released =>
        rw [turns.toShift.entry] at holds
        exact absurd holds released
      | quits failure top failed leaves empty =>
        refine .inr ⟨.spent empty, .inl ⟨rest, failure, ?_, leaves⟩⟩
        rw [active, top, failed]
    · obtain ⟨stack, given⟩ := sound.standing_aside active held own
      rw [turns.standing_other own, stoppable?_congr (turns.toShift.entry number)]
      cases Replied.apart sound active owned (.inl own) with
      | spared _ _ _ outcome => exact .inl (tends.congr stack given outcome)
      | stopped _ _ _ finished _ outcome =>
        exact (tends.stopped stack given outcome).imp_right fun departs => ⟨departs, .inr finished⟩

theorem Sound.departs_step (sound : Sound state) (stepped : state.step = some next)
    (held : (state.entry number).trigger = some trigger)
    (holds : (next.entry number).trigger = some trigger)
    (departs : Departs number trigger (state.standing number trigger)) :
    Departs number trigger (next.standing number trigger) := by
  cases step_advance sound.awake stepped with
  | passes agent idle turns => exact turns.standing_idle idle number trigger ▸ departs
  | ends agent signal active turns =>
    by_cases own : agent = .thread trigger
    · subst own
      rw [turns.standing]
      exact .spent rfl
    · rwa [turns.standing_other own]
  | answers agent frame rest signal active same =>
    have turns := (sound.replied active).turns
    rw [← same] at turns
    have owned := ((sound.linked.tasks number).held trigger held).1
    by_cases own : agent = .thread trigger
    · subst own
      rw [turns.standing]
      rw [turns.toShift.entry] at holds
      exact (sound.departs active owned departs).resolve_right fun released => released holds
    · obtain ⟨stack, given⟩ := sound.standing_aside active held own
      rw [turns.standing_other own]
      cases Replied.apart sound active owned (.inl own) with
      | spared _ _ _ outcome => exact departs.congr stack given (.inl outcome)
      | stopped _ _ _ _ _ outcome => exact departs.congr stack given (.inr outcome)

/-- A task that holds another trigger than before has just been armed. -/
theorem Sound.armed_tends (sound : Sound state) (stepped : state.step = some next)
    (holds : (next.entry number).trigger = some trigger)
    (anew : (state.entry number).trigger ≠ some trigger) :
    Tends number trigger (next.standing number trigger) := by
  obtain ⟨owned, started⟩ := ((sound.step stepped).linked.tasks number).held trigger holds
  cases step_advance sound.awake stepped with
  | passes agent idle turns => exact absurd (turns.toShift.entry number ▸ holds) anew
  | ends agent signal active turns => exact absurd (turns.toShift.entry number ▸ holds) anew
  | answers agent frame rest signal active same =>
    have replied := sound.replied active
    have turns := replied.turns
    rw [← same] at turns
    have shift := turns.toShift
    rw [shift.entry] at holds
    rw [shift.owner] at owned
    rw [shift.started] at started
    -- No step hands a task a trigger that was there before.
    have beyond : state.triggers.size ≤ trigger := Nat.le_of_not_lt fun within =>
      anew ((Keeps.reply (replied.fits sound) replied.reply).held number trigger within holds)
    have fresh : ∀ task, state.owner trigger = some task → state.isStarted trigger = false := by
      intro task mine
      rw [state.owner_of_le beyond] at mine
      cases mine
    obtain ⟨other, -, -, outcome, born⟩ := Replied.born sound active fresh owned
    obtain ⟨stack, given⟩ := born started
    rw [turns.standing_other other]
    exact .waits (.countdown trigger) .null (.countdown trigger) stack given
      (outcome.trans (state.outcome_of_le beyond))

theorem Attached.step (attached : Attached state) (sound : Sound state)
    (stepped : state.step = some next) : Attached next := by
  intro number trigger holds
  by_cases held : (state.entry number).trigger = some trigger
  · rcases attached number trigger held with tends | departs
    · exact (sound.onward stepped held holds tends).imp_right And.left
    · exact .inr (sound.departs_step stepped held holds departs)
  · exact .inl (sound.armed_tends stepped holds held)

/-! ### Tasks that run -/

def Stays (number : Nat) (state later : State) : Prop :=
  (later.entry number).isRunning = true → (state.entry number).isRunning = true ∧
    (later.entry number).trigger = (state.entry number).trigger

namespace Stays

variable {middle : State}

theorem trans (first : Stays number state middle) (second : Stays number middle later) :
    Stays number state later := by
  intro running
  obtain ⟨before, same⟩ := second running
  obtain ⟨earlier, sameToo⟩ := first before
  exact ⟨earlier, same.trans sameToo⟩

theorem of_entry (same : later.entry number = state.entry number) : Stays number state later := by
  intro running
  rw [same] at running ⊢
  exact ⟨running, rfl⟩

theorem of_neutral (neutral : Neutral state later) : Stays number state later := by
  intro running
  rw [neutral.isRunning] at running
  exact ⟨running, neutral.held number⟩

theorem of_idle (idle : (later.entry number).isRunning = false) : Stays number state later := by
  intro running
  rw [idle] at running
  cases running

theorem updateEntry {task : Nat} {change : Entry → Entry}
    (own : task = number → (change (state.entry number)).isRunning = true →
      (state.entry number).isRunning = true ∧
        (change (state.entry number)).trigger = (state.entry number).trigger) :
    Stays number state (state.updateEntry task change) := by
  intro running
  rw [entry_updateEntry] at running ⊢
  split at running
  · next same => rw [if_pos same]; exact own same.1.symm running
  · next other => rw [if_neg other]; exact ⟨running, rfl⟩

theorem breakOff (state : State) (number task : Nat) (report : Report) :
    Stays number state (state.breakOff task report) :=
  updateEntry fun _ => by rintro ⟨⟩

theorem effect {deeds : List Deed} (effect : Effect state deeds later) : Linked state →
    (∀ task, .started task ∉ deeds) → Stays number state later := by
  induction effect with
  | neutral neutral => exact fun _ _ => of_neutral neutral
  | start => exact fun _ none => absurd List.mem_cons_self (none _)
  | @stop state task trigger callback running held called =>
    intro linked _
    have owned := ((linked.tasks task).held trigger held).1
    by_cases same : number = task
    · subst same
      apply of_idle
      rw [entry_stopChain running held (linked.range trigger number owned)]
      rfl
    · exact of_entry ((stopChain_local running held owned callback).others number same)
  | trans earlier _ first second =>
    intro linked none
    exact (first linked fun task member => none task (List.mem_append_left _ member)).trans
      (second (linked.effect earlier) fun task member =>
        none task (List.mem_append_right _ member))

theorem abandonChain (state : State) (number task trigger : Nat) (report : Report) :
    Stays number state (state.abandonChain task trigger report).1 := by
  have dropped : ∀ middle : State, Stays number middle
      (middle.updateEntry task fun entry => entry.dropStop trigger) :=
    fun middle => updateEntry fun _ running => ⟨running, rfl⟩
  unfold State.abandonChain
  dsimp only
  split
  · exact (breakOff _ _ _ _).trans (dropped _)
  · exact (of_neutral (.countError _ _ _)).trans (dropped _)

theorem complain (state : State) (number trigger : Nat) (target : Work) (stage : String)
    (failure : Failure) :
    Stays number state (state.complain trigger target stage failure).1 := by
  rcases state.complain_state trigger target stage failure with unmoved | ⟨task, report, same⟩
  · exact of_neutral unmoved.neutral
  · rw [same]
    exact abandonChain _ _ _ _ _

theorem endChain {task : Nat} (idle : task = number → (state.entry number).trigger = some trigger →
    (state.entry number).isRunning = false) :
    Stays number state (state.endChain task trigger).1 := by
  refine updateEntry fun same running => ?_
  unfold Entry.release at running ⊢
  split
  · next held =>
    rw [if_pos held] at running
    exact absurd ((idle same held).symm.trans running) (by rintro ⟨⟩)
  · next released =>
    rw [if_neg released] at running
    exact ⟨running, rfl⟩

end Stays

/-- The end of a run leaves the task as it is, or has it hold another trigger. -/
theorem Ending.stays (linked : Linked state) {task : Nat}
    (owned : state.owner trigger = some task) {args : List Value} {mode : Mode}
    {outcome : Signal} {move : Move}
    (ending : Ending state task trigger args mode outcome later move) :
    Stays number state later ∨
      (later.entry number).trigger ≠ none ∧
        (later.entry number).trigger ≠ (state.entry number).trigger := by
  by_cases other : number = task
  · subst other
    cases ending with
    | goesOn noted running held arming =>
      have neutral := noted.neutral
      have within := Nat.lt_of_lt_of_le (linked.range trigger number owned) neutral.entries
      rcases arming.fate within with ⟨-, same⟩ | ⟨-, idle | ⟨anew, -⟩⟩
      · exact .inl ((Stays.of_neutral neutral).trans (.of_entry same))
      · exact .inl (.of_idle idle)
      · refine .inr ⟨by rw [anew]; rintro ⟨⟩, fun same => ?_⟩
        rw [anew, held] at same
        have old := Nat.lt_of_lt_of_le (Local.within_of_owner owned) neutral.triggers
        exact Nat.ne_of_gt old (Option.some.inj same)
    | @finished noted _ counted finished =>
      have neutral := counted.neutral
      refine .inl ((Stays.of_neutral neutral).trans (.endChain fun _ held => ?_))
      rw [neutral.isRunning]
      rw [neutral.held] at held
      exact Bool.eq_false_iff.mpr fun running => finished ⟨running, held⟩
  · exact .inl (.of_entry (ending.local.others number other))

/-- A step that starts no task leaves a running task its trigger, or has it hold another one. -/
theorem Reply.stays (linked : Linked state) {signal : Signal} {frame : Frame} {move : Move}
    (fits : Fits state agent frame)
    (none : ∀ task, .started task ∉ state.frameDeeds agent signal frame)
    (settled : ∀ other args, frame = .call (.settle number other) args →
      (state.entry number).trigger = some other → (state.entry number).isRunning = false)
    (reply : Reply state agent signal frame later move) :
    Stays number state later ∨
      (later.entry number).trigger ≠ .none ∧
        (later.entry number).trigger ≠ (state.entry number).trigger := by
  have same : ∀ {later : State}, later.entries = state.entries → Stays number state later :=
    fun entries => .of_entry (by rw [State.entry, entries]; rfl)
  cases reply with
  | plain _ _ unmoved => exact .inl (.of_neutral unmoved.neutral)
  | request _ effect => exact .inl (.effect effect linked none)
  | passed => exact .inl (same rfl)
  | dispatched => exact .inl (same rfl)
  | calledBack => exact .inl (same rfl)
  | waits _ _ _ _ unmoved => exact .inl (.of_neutral unmoved.neutral)
  | proceeds => exact .inl (same (entries_commit _ _ _ _))
  | obeys _ _ unmoved => exact .inl (.of_neutral unmoved.neutral)
  | cancelled _ _ _ unmoved => exact .inl (.of_neutral unmoved.neutral)
  | breaks => exact .inl ((same (entries_commit _ _ _ _)).trans (.complain _ _ _ _ _ _))
  | complains => exact .inl (.complain _ _ _ _ _ _)
  | fires _ unmoved =>
    exact .inl ((Stays.of_neutral (.noteRun _ _ _)).trans (.of_neutral unmoved.neutral))
  | misfires => exact .inl (same rfl)
  | settles task other args =>
    refine .inl (.endChain fun mine held => ?_)
    subst mine
    exact settled other args rfl held
  | ran task other args mode work => exact (endRun_ending _ _ _ _ _ _ _).stays linked fits.2.1
  | callsBack _ _ _ unmoved => exact .inl (.of_neutral unmoved.neutral)
  | regrets => exact .inl (.of_neutral (.countError _ _ _))

/-- What a start of an idle task comes to: it raises and leaves the task as it has begun, the task is
idle again, or it holds a new trigger. -/
theorem startChain_fate (within : number < state.entries.size)
    (idle : (state.entry number).isRunning = false) (mode : Mode) (args : List Value) :
    (∃ failure, (state.startChain number mode args).2 = .fail failure) ∧
        (state.startChain number mode args).1.entry number = (state.entry number).begin mode ∨
      (∀ failure, (state.startChain number mode args).2 ≠ .fail failure) ∧
        (((state.startChain number mode args).1.entry number).isRunning = false ∨
          ((state.startChain number mode args).1.entry number).trigger =
            some state.triggers.size) := by
  obtain ⟨later, result, started, becomes⟩ := startChain_becomes within idle mode args
  rw [started, begun_fst]
  generalize later.entry number = after at becomes ⊢
  cases becomes with
  | raised failure => exact .inl ⟨⟨failure, rfl⟩, rfl⟩
  | brokenOff report =>
    exact .inr ⟨fun failure same => (by cases congrArg Move.signal same), .inl rfl⟩
  | armed due => exact .inr ⟨fun failure same => (by cases congrArg Move.signal same), .inr rfl⟩

/-- A task that runs after a step is tended, if it was tended where it ran before and the step does not
desert it. -/
theorem Sound.tended (sound : Sound state) (attached : Attached state)
    (stepped : state.step = some next) (faithful : ¬ state.Deserts number)
    (tended : (state.entry number).isRunning = true → state.IsTended number)
    (running : (next.entry number).isRunning = true) : next.IsTended number := by
  -- It is tended by the thread that tended it, or by that of a trigger that has just been armed.
  have kept : ∀ trigger, (state.entry number).trigger = some trigger → state.IsTended number →
      ¬ state.Quits number trigger → (next.entry number).trigger = some trigger →
      next.IsTended number := by
    intro trigger held tended stays holds
    obtain ⟨other, same, tends⟩ := attached.tends tended
    obtain rfl := Option.some.inj (held.symm.trans same)
    refine (sound.step stepped).isTended holds ?_
    rcases sound.onward stepped held holds tends with tends | ⟨-, quits | finished⟩
    · exact tends
    · exact absurd quits stays
    · exact absurd (stoppable?_iff.mpr ⟨running, holds⟩) finished
  have anew : ∀ trigger, (next.entry number).trigger = some trigger →
      (state.entry number).trigger ≠ some trigger → next.IsTended number :=
    fun trigger holds different =>
      (sound.step stepped).isTended holds (sound.armed_tends stepped holds different)
  have stays : Stays number state next → next.IsTended number := by
    intro stays
    obtain ⟨before, same⟩ := stays running
    obtain ⟨trigger, held, -⟩ := id (tended before)
    refine kept trigger held (tended before) ?_ (same.trans held)
    rintro ⟨rest, failure, active, leaves⟩
    exact faithful (.quits trigger rest failure active leaves
      (stoppable?_iff.mpr ⟨before, held⟩))
  cases step_advance sound.awake stepped with
  | passes agent idle turns => exact stays (.of_entry (turns.toShift.entry number))
  | ends agent signal active turns => exact stays (.of_entry (turns.toShift.entry number))
  | answers agent frame rest signal active same =>
    have replied := sound.replied active
    have entry : ∀ task, next.entry task = (state.answer agent signal frame).1.entry task := by
      rw [same]
      exact replied.turns.toShift.entry
    -- A start may leave the task that it starts untended; any other step leaves a task alone or arms it.
    by_cases started : ∃ task, .started task ∈ state.frameDeeds agent signal frame
    · obtain ⟨task, member⟩ := started
      have starts := starts_of_deeds member
      obtain ⟨mode, args, answer⟩ := starts.answer
      by_cases other : number = task
      · subst other
        rcases startChain_fate (sound.linked.tidy.range number starts.member) starts.idle mode args
          with ⟨⟨failure, raises⟩, begun⟩ | ⟨-, idle | holds⟩
        · -- The start raises, so the task was tended all along: it still holds a trigger of before.
          have before : state.IsTended number := by
            refine Classical.not_not.mp fun untended => faithful ?_
            refine .raises agent frame rest signal failure active ?_ ?_ untended
            · rw [deeds, active]; exact member
            · rw [answer]; exact raises
          obtain ⟨trigger, held, -⟩ := id before
          refine kept trigger held before ?_ ?_
          · rintro ⟨others, failure, leaving, -⟩
            cases active.symm.trans leaving
            cases member
          · rw [entry, answer, begun]
            exact held
        · rw [entry, answer, idle] at running
          cases running
        · refine anew state.triggers.size (by rw [entry, answer, holds]) fun held => ?_
          have owned := ((sound.linked.tasks number).held _ held).1
          exact Nat.lt_irrefl _ (Local.within_of_owner owned)
      · refine stays (.of_entry ?_)
        rw [entry, answer]
        exact (startChain_local mode args starts.member starts.idle).others number other
    · have settled : ∀ other args, frame = .call (.settle number other) args →
          (state.entry number).trigger = some other → (state.entry number).isRunning = false := by
        rintro other args rfl held
        refine Bool.eq_false_iff.mpr fun before => ?_
        obtain ⟨trigger, same, tends⟩ := attached.tends (tended before)
        obtain rfl := Option.some.inj (held.symm.trans same)
        obtain ⟨rfl, -⟩ := replied.fits sound
        exact tends.not_settling (stackOf_active active)
      rcases replied.reply.stays sound.linked (replied.fits sound)
        (fun task member => started ⟨task, member⟩) settled with same | ⟨holding, different⟩
      · refine stays fun running => ?_
        rw [entry] at running ⊢
        exact same running
      · obtain ⟨trigger, holds⟩ := Option.ne_none_iff_exists'.mp holding
        refine anew trigger ((congrArg Entry.trigger (entry number)).trans holds) fun held => ?_
        exact different (holds.trans held.symm)

theorem Attached.issue (attached : Attached state) (idle : state.active = none)
    (operation : Operation) : Attached (state.issue operation) := by
  intro number trigger held
  have same : (state.issue operation).standing number trigger = state.standing number trigger :=
    (activateMain_turns idle [.perform operation]).standing_other (by rintro ⟨⟩)
  rw [same]
  exact attached number trigger held

theorem IsTended.issue (tended : state.IsTended number) (idle : state.active = none)
    (operation : Operation) : (state.issue operation).IsTended number := by
  obtain ⟨trigger, held, alive, either⟩ := tended
  have same := (activateMain_turns idle [.perform operation]).otherStacks (.thread trigger)
    (by rintro ⟨⟩)
  refine ⟨trigger, held, alive, ?_⟩
  unfold AwaitsTime at either ⊢
  rw [show (state.issue operation).stackOf _ = _ from same]
  exact either

end State

/-! ### Traces -/

namespace Trace

variable {setting : Setting} {past : List State} {state : State}

theorem attached (trace : Trace (.initial setting) past state) : state.Attached := by
  induction trace with
  | refl => rintro number trigger ⟨⟩
  | issue operation earlier finished ih =>
    exact ih.issue (State.mainHasFinished_idle finished) operation
  | step earlier stepped ih => exact ih.step (earlier.sound (.initial setting)) stepped

theorem tended (trace : Trace (.initial setting) past state) {number : Nat}
    (faithful : ∀ visited ∈ past, ¬ visited.Deserts number)
    (running : (state.entry number).isRunning = true) : state.IsTended number := by
  induction trace with
  | refl => cases running
  | issue operation earlier finished ih =>
    have before := ih (fun visited member => faithful visited (List.mem_cons_of_mem _ member)) running
    exact before.issue (State.mainHasFinished_idle finished) operation
  | step earlier stepped ih =>
    have before := ih fun visited member => faithful visited (List.mem_cons_of_mem _ member)
    exact (earlier.sound (.initial setting)).tended earlier.attached stepped
      (faithful _ List.mem_cons_self) before running

theorem leaving_task_untended : ∃ past state,
    Trace (.initial { Setting.ofRules 0 .universal with plans := some [.delay 5000000] }) past
      state ∧ (state.entry 0).isRunning = true ∧ (state.entry 0).trigger = some 0 ∧
        (state.trigger 0).thread = .ended := by
  have begun : Trace (.initial { Setting.ofRules 0 .universal with
      plans := some [.delay 5000000] }) [] _ := .refl
  obtain ⟨_, added⟩ := begun.perform rfl ⟨.add "job" (.text "* * * * *")
    (.script "work" [.raise ⟨"SystemExit", "bye"⟩]), true⟩
  obtain ⟨_, started⟩ := added.perform rfl ⟨.start "job" .chain [], true⟩
  obtain ⟨_, late⟩ := started.perform rfl ⟨.advance 6000000, true⟩
  exact ⟨_, _, late, rfl, rfl, rfl⟩

end Trace

end Timetable
