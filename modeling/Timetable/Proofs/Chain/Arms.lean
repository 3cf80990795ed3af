import Timetable.Proofs.Chain.Settlement

/-! How tasks come to be armed.

A task comes to hold a new trigger in two ways only: by a start, which a frame asks for, or at the end of a
run of its chain. Everything else leaves a task in its mode, idle if it was idle, and with no trigger but
the one that it held.
-/

set_option autoImplicit false

namespace Timetable

namespace State

structure Arms (state next : State) (number armed : Nat) : Prop where
  other : (state.entry number).trigger ≠ some armed
  held : (next.entry number).trigger = some armed

structure Begins (state next : State) (number : Nat) (mode : Mode) (args : List Value)
    (armed : Nat) : Prop extends Arms state next number armed where
  asks : ∃ agent frame rest value,
    state.active = some ⟨agent, frame :: rest, .ok value⟩ ∧ Asks state number frame mode args

variable {state middle later next : State} {agent : Agent} {number trigger armed : Nat}
  {mode : Mode} {args : List Value}

/-! ### Starts -/

theorem startChain_of_running (running : (state.entry number).isRunning = true) (mode : Mode)
    (args : List Value) : state.startChain number mode args = (state, .give (.bool false)) := by
  unfold startChain
  rw [if_pos running]

/-! ### What leaves a task in its chain -/

structure Abides (number : Nat) (state later : State) : Prop where
  mode : (later.entry number).mode = (state.entry number).mode
  running : (later.entry number).isRunning = true → (state.entry number).isRunning = true
  held : ∀ trigger, (later.entry number).trigger = some trigger →
    (state.entry number).trigger = some trigger

namespace Abides

theorem of_entry (same : later.entry number = state.entry number) : Abides number state later :=
  ⟨by rw [same], fun running => same ▸ running, fun _ held => same ▸ held⟩

theorem trans (first : Abides number state middle) (second : Abides number middle later) :
    Abides number state later where
  mode := second.mode.trans first.mode
  running running := first.running (second.running running)
  held trigger held := first.held trigger (second.held trigger held)

theorem of_neutral (neutral : Neutral state later) : Abides number state later where
  mode := congrArg Chain.mode (neutral.chain number)
  running running := (neutral.isRunning number).symm.trans running
  held _ held := (neutral.held number).symm.trans held

theorem updateEntry {task : Nat} {change : Entry → Entry}
    (mode : ∀ entry, (change entry).mode = entry.mode)
    (running : ∀ entry, (change entry).isRunning = true → entry.isRunning = true)
    (held : ∀ entry trigger, (change entry).trigger = some trigger → entry.trigger = some trigger) :
    Abides number state (state.updateEntry task change) := by
  have changed := state.entry_updateEntry task number change
  split at changed
  · exact ⟨by rw [changed, mode], fun runs => running _ (changed ▸ runs),
      fun trigger holds => held _ trigger (changed ▸ holds)⟩
  · exact .of_entry changed

theorem breakOff (state : State) (number task : Nat) (report : Report) :
    Abides number state (state.breakOff task report) :=
  updateEntry (fun _ => rfl) (by rintro _ ⟨⟩) (by rintro _ _ ⟨⟩)

theorem endChain (state : State) (number task trigger : Nat) :
    Abides number state (state.endChain task trigger).1 := by
  refine updateEntry (fun entry => ?_) (fun entry running => ?_)
    fun entry _ held => (held_release held).1
  · unfold Entry.release
    split <;> rfl
  · unfold Entry.release at running
    split at running <;> exact running

theorem abandonChain (state : State) (number task trigger : Nat) (report : Report) :
    Abides number state (state.abandonChain task trigger report).1 := by
  have dropped : ∀ middle : State, Abides number middle
      (middle.updateEntry task fun entry => entry.dropStop trigger) :=
    fun middle => updateEntry (fun _ => rfl) (fun _ => id) fun _ _ => id
  unfold State.abandonChain
  dsimp only
  split
  · exact (breakOff _ _ _ _).trans (dropped _)
  · exact (of_neutral (.countError _ _ _)).trans (dropped _)

theorem complain (state : State) (number trigger : Nat) (target : Work) (stage : String)
    (failure : Failure) :
    Abides number state (state.complain trigger target stage failure).1 := by
  rcases state.complain_state trigger target stage failure with unmoved | ⟨task, report, same⟩
  · exact of_neutral unmoved.neutral
  · rw [same]
    exact abandonChain _ _ _ _ _

theorem stopChain {task held : Nat} {callback : Work}
    (running : (state.entry task).status = .running)
    (holds : (state.entry task).trigger = some held) :
    Abides number state (state.stopChain task callback).1 := by
  rw [stopChain_eq running holds]
  have stopped : Abides number state
      (state.updateEntry task fun entry => entry.stop held callback) :=
    updateEntry (fun _ => rfl) (by rintro _ ⟨⟩) fun _ _ => id
  exact (stopped.trans (.of_entry (entry_commit _ _ _ _ _))).trans
    (of_neutral (Unmoved.tell _ _ _).neutral)

theorem effect {deeds : List Deed} (effect : Effect state deeds later) :
    .started number ∉ deeds → Abides number state later := by
  induction effect with
  | neutral neutral => exact fun _ => of_neutral neutral
  | @start state task mode args member idle =>
    intro none
    refine of_entry ((startChain_local mode args member idle).others number ?_)
    rintro rfl
    exact none List.mem_cons_self
  | stop running held called => exact fun _ => stopChain running held
  | trans _ _ first second =>
    intro none
    exact (first fun member => none (List.mem_append_left _ member)).trans
      (second fun member => none (List.mem_append_right _ member))

end Abides

/-- A frame that neither starts a task nor ends a run of it leaves it in its chain. -/
theorem Reply.abides {signal : Signal} {frame : Frame} {move : Move}
    (none : .started number ∉ state.frameDeeds agent signal frame)
    (unended : ∀ trigger args mode work, frame ≠ .fired number trigger args mode work)
    (reply : Reply state agent signal frame later move) : Abides number state later := by
  cases reply with
  | plain _ _ unmoved => exact .of_neutral unmoved.neutral
  | request _ effect => exact .effect effect none
  | passed => exact .of_entry rfl
  | dispatched => exact .of_entry rfl
  | calledBack => exact .of_entry rfl
  | waits _ _ _ _ unmoved => exact .of_neutral unmoved.neutral
  | proceeds => exact .of_entry (entry_commit _ _ _ _ _)
  | obeys _ _ unmoved => exact .of_neutral unmoved.neutral
  | cancelled _ _ _ unmoved => exact .of_neutral unmoved.neutral
  | breaks => exact (Abides.of_entry (entry_commit _ _ _ _ _)).trans (.complain _ _ _ _ _ _)
  | complains => exact .complain _ _ _ _ _ _
  | fires _ unmoved =>
    exact (Abides.of_neutral (.noteRun _ _ _)).trans (.of_neutral unmoved.neutral)
  | misfires => exact .of_entry rfl
  | settles task other args => exact .endChain _ _ _ _
  | ran task other args mode work =>
    refine .of_entry ((endRun_ending _ _ _ _ _ _ _).local.others number ?_)
    rintro rfl
    exact unended _ _ _ _ rfl
  | callsBack _ _ _ unmoved => exact .of_neutral unmoved.neutral
  | regrets => exact .of_neutral (.countError _ _ _)

/-! ### What arms a task -/

theorem Arming.mode_eq {result : Except Failure (Option Report)}
    (arming : Arming state number args later result) :
    (later.entry number).mode = (state.entry number).mode := by
  cases arming with
  | blind => rfl
  | left unmoved => rw [unmoved.entry]
  | @unplanned planned report unmoved =>
    rw [(Abides.breakOff planned number number report).mode, unmoved.entry]
  | @unstarted planned spawned due report unmoved made =>
    rw [(Abides.breakOff spawned number number report).mode, made.entry, unmoved.entry]
  | armed unmoved made armed =>
    rw [armed.entry, entry_updateEntry, made.entry, unmoved.entry]
    split <;> rfl

/-- A trigger that a task comes to hold by being armed is new, and has the arguments that were given. -/
theorem Arming.args_eq {result : Except Failure (Option Report)}
    (arming : Arming state number args later result) (arms : Arms state later number armed) :
    (later.trigger armed).args = args := by
  obtain ⟨other, held⟩ := arms
  cases arming with
  | blind => exact absurd held other
  | left unmoved => exact absurd (unmoved.entry number ▸ held) other
  | unplanned report unmoved =>
    rw [(chain_breakOff _ _ _).2.1] at held
    cases held
  | unstarted report unmoved made =>
    rw [(chain_breakOff _ _ _).2.1] at held
    cases held
  | @armed planned spawned _ due unmoved made armed =>
    rw [armed.entry, entry_updateEntry] at held
    split at held
    · obtain rfl := Option.some.inj held
      obtain ⟨name, made⟩ := made.new
      rw [armed.trigger]
      show (spawned.trigger state.triggers.size).args = args
      rw [show state.triggers.size = planned.triggers.size by rw [unmoved.triggers], made]
    · rw [made.entry, unmoved.entry] at held
      exact absurd held other

theorem Ending.unstarted {outcome : Signal} {move : Move} {begun : Mode}
    (ending : Ending state number trigger args begun outcome later move) :
    (later.entry number).mode = (state.entry number).mode ∧
      ((later.entry number).isRunning = true → (state.entry number).isRunning = true) := by
  cases ending with
  | goesOn noted running held arming =>
    exact ⟨arming.mode_eq.trans (Abides.of_neutral noted.neutral).mode, fun _ => running⟩
  | finished reports noted =>
    have abides := (Abides.of_neutral noted.neutral).trans (.endChain _ number number trigger)
    exact ⟨abides.mode, abides.running⟩

theorem Ending.args_eq {outcome : Signal} {move : Move} {begun : Mode}
    (ending : Ending state number trigger args begun outcome later move)
    (arms : Arms state later number armed) :
    state.stoppable? number = some trigger ∧
      (later.trigger armed).args = nextArgs begun args outcome := by
  cases ending with
  | goesOn noted running held arming =>
    refine ⟨stoppable?_iff.mpr ⟨running, held⟩, arming.args_eq ⟨fun holds => arms.other ?_, arms.held⟩⟩
    exact (noted.neutral.held number).symm.trans holds
  | finished reports noted =>
    refine absurd ?_ arms.other
    exact ((Abides.of_neutral noted.neutral).trans (.endChain _ _ _ _)).held _ arms.held

/-- A step in which a task is armed either starts it or ends a run of it. -/
theorem Sound.arms (sound : Sound state) (stepped : state.step = some next)
    (arms : Arms state next number armed) :
    (∃ mode args, Begins state next number mode args armed) ∨
      ∃ trigger begun outcome, .ran number trigger begun outcome ∈ state.deeds := by
  cases step_advance sound.awake stepped with
  | passes agent idle turns =>
    exact absurd (turns.toShift.entry number ▸ arms.held) arms.other
  | ends agent signal active turns =>
    exact absurd (turns.toShift.entry number ▸ arms.held) arms.other
  | answers agent frame rest signal active same =>
    obtain ⟨later, move, replied⟩ : ∃ later move,
        Replied state later next agent frame rest signal move :=
      ⟨_, _, sound.replied_step active stepped⟩
    have held := arms.held
    rw [replied.turns.toShift.entry] at held
    by_cases started : .started number ∈ state.frameDeeds agent signal frame
    · obtain ⟨-, value, mode, args, rfl, asks⟩ := asked_of_deeds started
      exact .inl ⟨mode, args, arms, agent, frame, rest, value, active, asks⟩
    -- Apart from a start, only the frame of a run can arm its task, and only when the run ends.
    · by_cases ended : ∃ trigger args mode work, frame = .fired number trigger args mode work
      · obtain ⟨trigger, args, begun, work, rfl⟩ := ended
        refine .inr ⟨trigger, begun, signal, ?_⟩
        rw [deeds, active]
        cases replied.reply with
        | plain common => cases common
        | request asked => cases asked
        | passed => exact absurd held arms.other
        | ran _ _ _ _ _ mild =>
          cases signal with
          | ok value => exact List.mem_cons_self
          | error failure =>
            simp only [frameDeeds, mild failure rfl]
            exact List.mem_cons_self
        | waits _ _ counts | proceeds counts | obeys counts | cancelled counts
        | breaks _ counts => cases counts
      · refine absurd (Abides.held (replied.reply.abides started ?_) _ held) arms.other
        intro trigger args mode work same
        exact ended ⟨trigger, args, mode, work, same⟩

/-- A task that is started is armed with the arguments that were asked for, in the mode that was asked
for. -/
theorem Sound.begins_args (sound : Sound state) (stepped : state.step = some next)
    (begins : Begins state next number mode args armed) :
    (next.trigger armed).args = args ∧ (next.entry number).mode = mode := by
  obtain ⟨⟨other, held⟩, agent, frame, rest, value, active, asks⟩ := begins
  have shift := (sound.replied_step active stepped).turns.toShift
  rw [asks.answer] at shift
  rw [shift.entry] at held ⊢
  rw [shift.args]
  cases running : (state.entry number).isRunning with
  | true =>
    rw [startChain_of_running running] at held
    exact absurd held other
  | false =>
    obtain ⟨result, arming⟩ := startChain_arming mode args running
    have within : number < state.entries.size := by
      cases asks with
      | start _ _ found | restart _ found | resume _ _ _ found =>
        exact sound.linked.tidy.range number (find?_mem found).1
    have begun := entry_begin within mode
    refine ⟨arming.args_eq ⟨?_, held⟩, arming.mode_eq.trans (by rw [begun]; rfl)⟩
    rw [begun]
    exact other

theorem active_of_ran {begun : Mode} {outcome : Signal} (sound : Sound state)
    (ran : .ran number trigger begun outcome ∈ state.deeds) : ∃ args work rest, state.active =
      some ⟨.thread trigger, .fired number trigger args begun work :: rest, outcome⟩ ∧
        args = (state.trigger trigger).args ∧
        ∀ failure, outcome = .error failure → failure.leaves = false := by
  obtain ⟨agent, frame, rest, signal, active, member⟩ := active_of_deed ran
  obtain ⟨args, work, rfl⟩ := (frame_of_deed sound active member).1 _ _ _ _ rfl
  obtain ⟨rfl, -, -, given⟩ := sound.fits_active active _ List.mem_cons_self
  refine ⟨args, work, rest, ?_, given, ?_⟩
  · cases signal with
    | ok value =>
      cases List.mem_singleton.mp member
      exact active
    | error failure =>
      simp only [frameDeeds] at member
      split at member
      · cases member
      · cases List.mem_singleton.mp member
        exact active
  · rintro failure rfl
    cases signal with
    | ok value => cases List.mem_singleton.mp member
    | error failure =>
      simp only [frameDeeds] at member
      split at member
      · cases member
      · next mild =>
        cases List.mem_singleton.mp member
        simpa using mild

/-- A chain that goes on at the end of a run is one of a task that runs and has held its trigger until
then, and it is armed with what comes of the run. -/
theorem Sound.goesOn_args (sound : Sound state) (stepped : state.step = some next) {begun : Mode}
    {outcome : Signal} (ran : .ran number trigger begun outcome ∈ state.deeds)
    (arms : Arms state next number armed) :
    state.stoppable? number = some trigger ∧
      (next.trigger armed).args = nextArgs begun (state.trigger trigger).args outcome := by
  obtain ⟨args, work, rest, active, rfl, mild⟩ := active_of_ran sound ran
  obtain ⟨later, move, replied⟩ : ∃ later move, Replied state later next (.thread trigger)
      (.fired number trigger (state.trigger trigger).args begun work) rest outcome move :=
    ⟨_, _, sound.replied_step active stepped⟩
  have shift := replied.turns.toShift
  have armed : Arms state later number armed := ⟨arms.other, shift.entry number ▸ arms.held⟩
  rw [shift.args]
  -- A failure that leaves the thread arms nothing.
  rcases replied.reply.of_fired with ⟨failure, -, -, rfl, -⟩ | ended
  · exact absurd armed.held armed.other
  · have ending : Ending state number trigger (state.trigger trigger).args begun outcome later
        move := by
      simpa only [← ended] using
        endRun_ending state number trigger (state.trigger trigger).args begun work outcome
    exact ending.args_eq armed

theorem Sound.unstarted (sound : Sound state) (stepped : state.step = some next)
    (none : .started number ∉ state.deeds) :
    (next.entry number).mode = (state.entry number).mode ∧
      ((next.entry number).isRunning = true → (state.entry number).isRunning = true) := by
  cases step_advance sound.awake stepped with
  | passes agent idle turns => rw [turns.toShift.entry]; exact ⟨rfl, id⟩
  | ends agent signal active turns => rw [turns.toShift.entry]; exact ⟨rfl, id⟩
  | answers agent frame rest signal active same =>
    obtain ⟨later, move, replied⟩ : ∃ later move,
        Replied state later next agent frame rest signal move :=
      ⟨_, _, sound.replied_step active stepped⟩
    rw [replied.turns.toShift.entry]
    rw [deeds, active] at none
    by_cases ended : ∃ trigger args begun work, frame = .fired number trigger args begun work
    · obtain ⟨trigger, args, begun, work, rfl⟩ := ended
      rcases replied.reply.of_fired with ⟨failure, -, -, rfl, -⟩ | ended
      · exact ⟨rfl, id⟩
      · have ending : Ending state number trigger args begun signal later move := by
          simpa only [← ended] using endRun_ending state number trigger args begun work signal
        exact ending.unstarted
    · have abides : Abides number state later := replied.reply.abides none
        fun trigger args begun work same => ended ⟨trigger, args, begun, work, same⟩
      exact ⟨abides.mode, abides.running⟩

/-- A start leaves the task as it has begun, or lets go of the triggers that there were; then the task
runs only with a run ahead. -/
theorem Sound.started (sound : Sound state) (stepped : state.step = some next)
    (started : .started number ∈ state.deeds) :
    (state.entry number).nextRun = none ∧
      ((∃ mode, next.entry number = (state.entry number).begin mode) ∨
        ((next.entry number).isRunning = true → (next.entry number).nextRun ≠ none) ∧
          ∀ trigger < state.triggers.size, (next.entry number).trigger ≠ some trigger) := by
  obtain ⟨within, idle, mode, args, entry⟩ := sound.starts_step stepped started
  constructor
  · refine Option.not_isSome_iff_eq_none.mp fun planned => ?_
    have running := ((sound.linked.tasks number).planned (Option.isSome_iff_ne_none.mp planned)).1
    exact absurd (idle.symm.trans (isRunning_iff.mpr running)) (by rintro ⟨⟩)
  · obtain ⟨later, result, begins, becomes⟩ := startChain_becomes within idle mode args
    rw [entry, begins, begun_fst]
    generalize later.entry number = after at becomes ⊢
    cases becomes with
    | raised failure => exact .inl ⟨mode, rfl⟩
    | brokenOff report => exact .inr ⟨by rintro ⟨⟩, by rintro _ _ ⟨⟩⟩
    | armed due =>
      refine .inr ⟨by rintro _ ⟨⟩, fun trigger old same => ?_⟩
      exact Nat.ne_of_gt old (Option.some.inj same)

theorem Sound.held_before (sound : Sound state) (stepped : state.step = some next)
    (old : trigger < state.triggers.size) (held : (next.entry number).trigger = some trigger) :
    (state.entry number).trigger = some trigger := by
  cases step_advance sound.awake stepped with
  | passes agent idle turns => exact turns.toShift.entry number ▸ held
  | ends agent signal active turns => exact turns.toShift.entry number ▸ held
  | answers agent frame rest signal active same =>
    have replied := sound.replied_step active stepped
    rw [replied.turns.toShift.entry] at held
    exact (Keeps.reply (replied.fits sound) replied.reply).held number trigger old held

theorem Arms.beyond (arms : Arms state next number armed) (sound : Sound state)
    (stepped : state.step = some next) : state.triggers.size ≤ armed :=
  Nat.le_of_not_lt fun old => arms.other (sound.held_before stepped old arms.held)

theorem Sound.triggers_le (sound : Sound state) (stepped : state.step = some next) :
    state.triggers.size ≤ next.triggers.size := by
  cases step_advance sound.awake stepped with
  | passes agent idle turns => exact Nat.le_of_eq turns.toShift.triggers.symm
  | ends agent signal active turns => exact Nat.le_of_eq turns.toShift.triggers.symm
  | answers agent frame rest signal active same =>
    have replied := sound.replied_step active stepped
    rw [replied.turns.toShift.triggers]
    exact (Keeps.reply (replied.fits sound) replied.reply).triggers

theorem Sound.owner_eq (sound : Sound state) (stepped : state.step = some next)
    (old : trigger < state.triggers.size) : next.owner trigger = state.owner trigger := by
  cases step_advance sound.awake stepped with
  | passes agent idle turns => exact turns.toShift.owner trigger
  | ends agent signal active turns => exact turns.toShift.owner trigger
  | answers agent frame rest signal active same =>
    have replied := sound.replied_step active stepped
    rw [replied.turns.toShift.owner]
    exact (Keeps.reply (replied.fits sound) replied.reply).owner trigger old

/-- A trigger that was armed for a task stays so, with its arguments. -/
theorem Sound.armed_step (sound : Sound state) (stepped : state.step = some next)
    (owned : state.owner trigger = some number) (started : state.isStarted trigger = true) :
    next.owner trigger = some number ∧ next.isStarted trigger = true ∧
      (next.trigger trigger).args = (state.trigger trigger).args := by
  have shifted : Shift state next → next.owner trigger = some number ∧
      next.isStarted trigger = true ∧
      (next.trigger trigger).args = (state.trigger trigger).args := fun shift =>
    ⟨(shift.owner _).trans owned, (shift.started _).trans started, shift.args _⟩
  cases step_advance sound.awake stepped with
  | passes agent idle turns => exact shifted turns.toShift
  | ends agent signal active turns => exact shifted turns.toShift
  | answers agent frame rest signal active same =>
    have replied := sound.replied_step active stepped
    have grows := replied.reply.grows sound.linked
    have shift := replied.turns.toShift
    rw [shift.owner, shift.started, shift.args]
    exact ⟨grows.owner _ _ owned, grows.isStarted started, grows.args _ _ owned⟩

end State

end Timetable
