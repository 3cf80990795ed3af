import Timetable.Proofs.Chain.Sound

/-! Running tasks have a run ahead.

A start whose clock shows no time leaves its task running with no run planned. Where no start meets
such a clock, every task that runs has a run ahead, in every state of a session.
-/

set_option autoImplicit false

namespace Timetable

/-- Whether no step of the planner asks to leave. -/
def Setting.IsPolite (setting : Setting) : Prop :=
  ∀ plans, setting.plans = some plans → ∀ failure, .raise failure ∈ plans →
    failure.leaves = false

namespace State

/-- The next step starts an idle task, and clocks show no time. -/
def StartsBlind (state : State) : Prop :=
  (∃ number, .started number ∈ state.deeds) ∧ ∃ fault, state.now = .error fault

def Firm (state : State) : Prop :=
  ∀ number, (state.entry number).isRunning = true → (state.entry number).nextRun ≠ none

variable {number : Nat} {state middle later : State} {agent : Agent}

theorem isRunning_iff {entry : Entry} : entry.isRunning = true ↔ entry.status = .running := by
  simp [Entry.isRunning]

namespace Firm

theorem neutral (firm : Firm state) (neutral : Neutral state later) : Firm later := by
  intro number running
  rw [neutral.isRunning] at running
  rw [neutral.nextRun]
  exact firm number running

theorem within (firm : Firm state) (inside : Local number state later)
    (own : (later.entry number).isRunning = true → (later.entry number).nextRun ≠ none) :
    Firm later := by
  intro other running
  by_cases same : other = number
  · subst same; exact own running
  · rw [inside.others other same] at running ⊢
    exact firm other running

theorem of_entries (firm : Firm state) (entries : later.entries = state.entries) :
    Firm later := by
  intro number
  rw [State.entry, entries]
  exact firm number

theorem breakOff (firm : Firm state) (number : Nat) (report : Report) :
    Firm (state.breakOff number report) := by
  apply firm.within (breakOff_local _ _ _)
  intro running
  rw [isRunning_iff, (chain_breakOff _ _ _).1] at running
  cases running

theorem updateEntry (firm : Firm state) {change : Entry → Entry}
    (inside : Local number state (state.updateEntry number change))
    (own : (change (state.entry number)).isRunning = true →
      (change (state.entry number)).nextRun ≠ none) :
    Firm (state.updateEntry number change) := by
  apply firm.within inside
  rw [entry_updateEntry]
  split
  · exact own
  · exact firm number

/-- Arming plans a run or ends the chain, unless clocks show no time. -/
theorem arming (polite : state.setting.IsPolite) {args : List Value}
    {result : Except Failure (Option Report)} (arming : Arming state number args later result)
    (others : ∀ other, other ≠ number → (state.entry other).isRunning = true →
      (state.entry other).nextRun ≠ none)
    (blind : ∀ fault, state.now = .error fault → (state.entry number).isRunning = true →
      (state.entry number).nextRun ≠ none) :
    Firm later := by
  have inside := arming.local
  intro other running
  by_cases same : other = number
  · subst same
    cases arming with
    | blind fault now => exact blind fault now running
    | left unmoved leaves scripted =>
      obtain ⟨plans, given, member⟩ := scripted
      rw [polite plans given _ member] at leaves; cases leaves
    | unplanned report unmoved =>
      rw [isRunning_iff, (chain_breakOff _ _ _).1] at running; cases running
    | unstarted report unmoved spawned =>
      rw [isRunning_iff, (chain_breakOff _ _ _).1] at running; cases running
    | @armed planned spawned later due unmoved made armed =>
      rw [armed.entry, entry_updateEntry] at running ⊢
      split
      · rintro ⟨⟩
      · next beyond =>
        rw [if_neg beyond, entry_of_le _ (Nat.le_of_not_lt fun within => beyond ⟨rfl, within⟩)]
          at running
        cases running
  · rw [inside.others other same] at running ⊢
    exact others other same running

theorem startChain (firm : Firm state) (polite : state.setting.IsPolite)
    (member : number ∈ state.registered) (idle : (state.entry number).isRunning = false)
    (mode : Mode) (args : List Value) (seen : ∀ fault, state.now ≠ .error fault) :
    Firm (state.startChain number mode args).1 := by
  obtain ⟨_, started⟩ := startChain_arming mode args idle
  have begun := begin_local mode member
  refine arming (by rw [begun.setting]; exact polite) started (fun other different => ?_)
    fun fault now => absurd now (seen fault)
  rw [begun.others other different]
  exact firm other

theorem stopChain (firm : Firm state) (linked : Linked state) {trigger : Nat}
    {callback : Work} (running : (state.entry number).status = .running)
    (held : (state.entry number).trigger = some trigger) :
    Firm (state.stopChain number callback).1 := by
  have owned := ((linked.tasks number).held trigger held).1
  have within := linked.range trigger number owned
  apply firm.within (stopChain_local running held owned callback)
  intro stopped
  rw [entry_stopChain running held within] at stopped
  cases stopped

theorem effect {deeds : List Deed} (effect : Effect state deeds later) :
    Firm state → Linked state → state.setting.IsPolite →
    (∀ number, .started number ∈ deeds → ∀ fault, state.now ≠ .error fault) → Firm later := by
  induction effect with
  | neutral neutral => exact fun firm _ _ _ => firm.neutral neutral
  | start mode args member idle =>
    intro firm _ polite seen
    exact firm.startChain polite member idle mode args (seen _ List.mem_cons_self)
  | stop running held called => exact fun firm linked _ _ => firm.stopChain linked running held
  | trans earlier _ first second =>
    intro firm linked polite seen
    obtain ⟨setting, now⟩ := earlier.now linked
    refine second (first firm linked polite fun number member =>
      seen number (List.mem_append_left _ member)) (linked.effect earlier)
      (by rw [setting]; exact polite) fun number member => ?_
    rw [now]
    exact seen number (List.mem_append_right _ member)

theorem endChain (firm : Firm state) {trigger : Nat}
    (finished : (state.entry number).trigger = some trigger → (state.entry number).isRunning = false) :
    Firm (state.endChain number trigger).1 := by
  apply firm.updateEntry (endChain_local state number trigger)
  unfold Entry.release
  split
  · next held => exact fun running => absurd (finished held).symm (running ▸ (by rintro ⟨⟩))
  · exact firm number

theorem abandonChain (firm : Firm state) (number trigger : Nat) (report : Report) :
    Firm (state.abandonChain number trigger report).1 := by
  unfold State.abandonChain
  dsimp only
  have dropped : ∀ {middle : State}, Firm middle →
      Firm (middle.updateEntry number fun entry => entry.dropStop trigger) :=
    fun firm => firm.updateEntry (dropStop_local _ _ _) (firm number)
  split
  · exact dropped (firm.breakOff number report)
  · exact dropped (firm.neutral (.countError _ _ _))

theorem complain (firm : Firm state) (trigger : Nat) (target : Work) (stage : String)
    (failure : Failure) : Firm (state.complain trigger target stage failure).1 := by
  rcases state.complain_state trigger target stage failure with unmoved | ⟨number, report, same⟩
  · exact firm.neutral unmoved.neutral
  · rw [same]
    exact firm.abandonChain number trigger report

theorem ending (firm : Firm state) (polite : state.setting.IsPolite) {trigger : Nat}
    {args : List Value} {mode : Mode} {outcome : Signal} {move : Move}
    (ending : Ending state number trigger args mode outcome later move) : Firm later := by
  cases ending with
  | goesOn noted running held arming failed done =>
    have neutral := noted.neutral
    have counted := firm.neutral neutral
    exact Firm.arming (by rw [neutral.setting]; exact polite) arming
      (fun other _ => counted other) fun _ _ => counted number
  | finished reports noted finished =>
    have neutral := noted.neutral
    apply (firm.neutral neutral).endChain
    intro held
    rw [neutral.held] at held
    rw [neutral.isRunning]
    exact Bool.eq_false_iff.mpr fun running => finished ⟨running, held⟩

/-- A reply keeps the runs of running tasks, unless it starts a task and clocks show no time. -/
theorem reply (firm : Firm state) (linked : Linked state) (polite : state.setting.IsPolite)
    {signal : Signal} {frame : Frame} {move : Move} (fits : Fits state agent frame)
    (seen : ∀ number, .started number ∈ state.frameDeeds agent signal frame →
      ∀ fault, state.now ≠ .error fault)
    (reply : Reply state agent signal frame later move) : Firm later := by
  cases reply with
  | plain _ _ unmoved => exact firm.neutral unmoved.neutral
  | request _ effect => exact Firm.effect effect firm linked polite seen
  | passed => exact firm
  | dispatched => exact firm
  | calledBack => exact firm
  | waits _ _ _ _ unmoved => exact firm.neutral unmoved.neutral
  | proceeds => exact firm.of_entries (entries_commit _ _ _ _)
  | obeys _ _ unmoved => exact firm.neutral unmoved.neutral
  | cancelled _ _ _ unmoved => exact firm.neutral unmoved.neutral
  | breaks => exact (firm.of_entries (entries_commit _ _ _ _)).complain _ _ _ _
  | complains => exact firm.complain _ _ _ _
  | fires _ unmoved => exact (firm.neutral (.noteRun _ _ _)).neutral unmoved.neutral
  | misfires => exact firm
  | settles number trigger args =>
    refine firm.endChain fun held => Bool.eq_false_iff.mpr fun running => ?_
    -- a stop is pending for a redirected trigger, so no run is ahead of a task that holds it
    have bound := linked.tasks number
    obtain ⟨-, other, same, unstopped⟩ := bound.planned (firm number running)
    cases held.symm.trans same
    exact bound.redirected trigger held fits.2.2.1 unstopped
  | ran number trigger args mode work => exact firm.ending polite (endRun_ending _ _ _ _ _ _ _)
  | callsBack _ _ _ unmoved => exact firm.neutral unmoved.neutral
  | regrets => exact firm.neutral (.countError _ _ _)

end Firm

/-! ### Starts -/

inductive Asks (state : State) (number : Nat) : Frame → Mode → List Value → Prop where
  | start {name : String} (mode : Mode) (args : List Value) : state.find? name = some number →
      Asks state number (.perform (.start name mode args)) mode args
  /-- A task that does not run is started in its mode. -/
  | restart {name : String} (args : List Value) : state.find? name = some number →
      state.stoppable? number = none →
      Asks state number (.perform (.restart name args)) (state.entry number).mode args
  /-- The stop of a restart has settled. -/
  | resume {name : String} (mode : Mode) (given pending : List Value) :
      state.find? name = some number →
      Asks state number (.call (.resume name mode given) pending) mode
        (if given.isEmpty then pending else given)

namespace Asks

variable {frame : Frame} {mode : Mode} {args : List Value}

theorem find? (asks : Asks state number frame mode args) :
    ∃ name, state.find? name = some number ∧ frame.asksFor name = true := by
  cases asks with
  | start mode args found => exact ⟨_, found, decide_eq_true rfl⟩
  | restart args found absent => exact ⟨_, found, decide_eq_true rfl⟩
  | resume mode given pending found => exact ⟨_, found, decide_eq_true rfl⟩

theorem answer (asks : Asks state number frame mode args) (agent : Agent) (value : Value) :
    state.answer agent (.ok value) frame = state.startChain number mode args := by
  cases asks with
  | start mode args found =>
    simp only [State.answer, State.resume, perform, startNamed, found]
  | restart args found absent => exact restart_of_absent found absent agent args
  | resume mode given pending found =>
    simp only [State.answer, State.resume, call, startNamed, found]

theorem deeds (asks : Asks state number frame mode args) (agent : Agent) (value : Value) :
    state.frameDeeds agent (.ok value) frame = state.startDeeds number := by
  cases asks with
  | start mode args found => simp only [frameDeeds, operationDeeds, found]
  | restart args found absent => simp only [frameDeeds, operationDeeds, found, absent]
  | resume mode given pending found => simp only [frameDeeds, found]

end Asks

theorem of_mem_startDeeds {other : Nat} (member : .started number ∈ state.startDeeds other) :
    other = number ∧ (state.entry number).isRunning = false := by
  unfold startDeeds at member
  split at member
  · cases member
  · next idle =>
    obtain rfl := Deed.started.inj (List.mem_singleton.mp member)
    exact ⟨rfl, by simpa using idle⟩

theorem startDeeds_of_idle (idle : (state.entry number).isRunning = false) :
    state.startDeeds number = [.started number] := by
  rw [startDeeds, if_neg (by rw [idle]; rintro ⟨⟩)]

theorem not_mem_stopDeeds (callback : Work) (names : List String) :
    .started number ∉ state.stopDeeds callback names := by
  induction names generalizing state with
  | nil => exact List.not_mem_nil
  | cons name rest ih =>
    unfold stopDeeds
    split
    · exact ih
    · next task _ =>
      intro member
      rcases List.mem_append.mp member with member | member
      · cases stoppable : state.stoppable? task with
        | none => rw [stoppable] at member; cases member
        | some trigger =>
          rw [stoppable] at member
          cases List.mem_singleton.mp member
      · exact ih member

structure Starts (state : State) (agent : Agent) (signal : Signal) (frame : Frame)
    (number : Nat) : Prop where
  idle : (state.entry number).isRunning = false
  member : number ∈ state.registered
  resumed : ∃ value, signal = .ok value
  deeds : state.frameDeeds agent signal frame = [.started number]
  asks : frame.asksFor (state.entry number).name = true
  answer : ∃ mode args, state.answer agent signal frame = state.startChain number mode args

theorem started_named {name : String}
    (member : .started number ∈ (match state.find? name with
      | none => []
      | some number => state.startDeeds number)) :
    state.find? name = some number ∧ (state.entry number).isRunning = false := by
  split at member
  · cases member
  · next task found =>
    obtain ⟨rfl, idle⟩ := of_mem_startDeeds member
    exact ⟨found, idle⟩

theorem asks_of_restart {name : String} {args : List Value}
    (member : .started number ∈ state.operationDeeds (.restart name args)) :
    (state.entry number).isRunning = false ∧
      Asks state number (.perform (.restart name args)) (state.entry number).mode args := by
  simp only [operationDeeds] at member
  cases found : state.find? name with
  | none => simp only [found] at member; cases member
  | some task =>
    simp only [found] at member
    -- A restart starts the task only if there is nothing to stop.
    cases stoppable : state.stoppable? task with
    | some trigger =>
      simp only [stoppable] at member
      cases List.mem_singleton.mp member
    | none =>
      simp only [stoppable] at member
      obtain ⟨rfl, idle⟩ := of_mem_startDeeds member
      exact ⟨idle, .restart args found stoppable⟩

/-- A task is started where it is idle and a frame asks for its start. -/
theorem asked_of_deeds {signal : Signal} {frame : Frame}
    (member : .started number ∈ state.frameDeeds agent signal frame) :
    (state.entry number).isRunning = false ∧
      ∃ value mode args, signal = .ok value ∧ Asks state number frame mode args := by
  cases signal with
  | error failure =>
    cases frame with
    | fired task trigger args mode work =>
      simp only [frameDeeds] at member
      split at member
      · cases member
      · cases List.mem_singleton.mp member
    | _ => cases member
  | ok value =>
    cases frame with
    | perform operation =>
      cases operation with
      | start name mode args =>
        obtain ⟨found, idle⟩ := started_named member
        exact ⟨idle, value, mode, args, rfl, .start mode args found⟩
      | restart name args =>
        obtain ⟨idle, asks⟩ := asks_of_restart member
        exact ⟨idle, value, _, args, rfl, asks⟩
      | stop name callback =>
        cases name with
        | some name => exact absurd member (not_mem_stopDeeds _ _)
        | none => exact absurd member (not_mem_stopDeeds _ _)
      | shutdown callback timeout => exact absurd member (not_mem_stopDeeds _ _)
      | _ => cases member
    | call work args =>
      cases work with
      | resume name mode given =>
        obtain ⟨found, idle⟩ := started_named member
        exact ⟨idle, value, mode, _, rfl, .resume mode given args found⟩
      | _ => cases member
    | callback task work args => cases List.mem_singleton.mp member
    | fired task trigger args mode work => cases List.mem_singleton.mp member
    | _ => cases member

theorem starts_of_deeds {signal : Signal} {frame : Frame}
    (member : .started number ∈ state.frameDeeds agent signal frame) :
    Starts state agent signal frame number := by
  obtain ⟨idle, value, mode, args, rfl, asks⟩ := asked_of_deeds member
  obtain ⟨name, found, named⟩ := asks.find?
  obtain ⟨registered, rfl⟩ := find?_mem found
  exact ⟨idle, registered, ⟨value, rfl⟩, (asks.deeds agent value).trans (startDeeds_of_idle idle),
    named, mode, args, asks.answer agent value⟩

theorem Sound.starts_step (sound : Sound state) {next : State} (stepped : state.step = some next)
    (started : .started number ∈ state.deeds) :
    number < state.entries.size ∧ (state.entry number).isRunning = false ∧
      ∃ mode args, ∀ task, next.entry task = (state.startChain number mode args).1.entry task := by
  obtain ⟨agent, frame, rest, signal, active, member⟩ := active_of_deed started
  have starts := starts_of_deeds member
  obtain ⟨mode, args, answer⟩ := starts.answer
  refine ⟨sound.linked.tidy.range number starts.member, starts.idle, mode, args, fun task => ?_⟩
  rw [(sound.replied_step active stepped).turns.toShift.entry, answer]

/-! ### Blind starts -/

theorem startChain_blind {fault : Fault} (blind : state.now = .error fault)
    (idle : (state.entry number).isRunning = false) (mode : Mode) (args : List Value) :
    (state.startChain number mode args).1 =
      state.updateEntry number fun entry => entry.begin mode := by
  have now : (state.updateEntry number fun entry => entry.begin mode).now = .error fault := blind
  unfold startChain
  rw [if_neg (by rw [idle]; rintro ⟨⟩)]
  simp only [arm, now]

theorem Sound.blind (sound : Sound state) {next : State} (blind : state.StartsBlind)
    (stepped : state.step = some next) : ∃ number, (next.entry number).isRunning = true ∧
      (next.entry number).nextRun = none := by
  obtain ⟨⟨number, started⟩, fault, now⟩ := blind
  obtain ⟨within, idle, mode, args, entry⟩ := sound.starts_step stepped started
  refine ⟨number, ?_⟩
  rw [entry, startChain_blind now idle, entry_begin within]
  refine ⟨rfl, Option.not_isSome_iff_eq_none.mp fun planned => ?_⟩
  have bound := (sound.linked.tasks number).planned (Option.isSome_iff_ne_none.mp planned)
  rw [isRunning_iff.mpr bound.1] at idle
  cases idle

end State

end Timetable
