import Timetable.Proofs.Chain.Pending

/-! Stops are final.

Once the task of a name has been stopped or removed, nothing but a start of that name arms a trigger for
it or makes it run. A start may be one that the program asks for, or one that a restart has put off; a
stop does not take back the latter.
-/

set_option autoImplicit false

namespace Timetable

/-- Whether a frame holds the callback of a restart of the task of a name. -/
def Frame.resumes (name : String) : Frame → Bool
  | .call work _ | .callback _ work _ => work.resumes name
  | _ => false

namespace State

def AsksFor (state : State) (name : String) : Prop :=
  ∃ agent operation rest value,
    state.active = some ⟨agent, .perform operation :: rest, .ok value⟩ ∧
      operation.asksFor name = true

def Resumes (state : State) (name : String) : Prop :=
  ∃ agent work args rest value,
    state.active = some ⟨agent, .call work args :: rest, .ok value⟩ ∧ work.resumes name = true

/-- The stop of a restart of the task of a name is pending. -/
def PutsOff (state : State) (name : String) : Prop :=
  ∃ number trigger callback, (state.entry number).stopCallback? trigger = some callback ∧
    callback.resumes name = true

/-- A restart of the task of a name has put off a start that is yet to come. -/
def Owes (state : State) (name : String) : Prop :=
  state.PutsOff name ∨ ∃ agent, ∃ frame ∈ state.stackOf agent, frame.resumes name = true

/-- `Quiet name state later`: no trigger has been made for a task of the name, and none has begun to
run or to hold a trigger while it runs. -/
structure Quiet (name : String) (state later : State) : Prop where
  running : ∀ number, (later.entry number).name = name →
    (later.entry number).isRunning = true → (state.entry number).name = name ∧
      (state.entry number).isRunning = true ∧
      ((state.entry number).trigger = none → (later.entry number).trigger = none)
  owner : ∀ trigger number, later.owner trigger = some number →
    (later.entry number).name = name →
    state.owner trigger = some number ∧ (state.entry number).name = name

/-- Tasks of the name that run hold no trigger. -/
def Rests (state : State) (name : String) : Prop :=
  ∀ number, (state.entry number).name = name → (state.entry number).isRunning = true →
    (state.entry number).trigger = none

variable {name : String} {number : Nat} {state middle later : State} {agent : Agent}

namespace Quiet

theorem refl (name : String) (state : State) : Quiet name state state :=
  ⟨fun _ named running => ⟨named, running, id⟩, fun _ _ owned named => ⟨owned, named⟩⟩

theorem trans (first : Quiet name state middle) (second : Quiet name middle later) :
    Quiet name state later where
  running number named running := by
    obtain ⟨namedThen, runningThen, held⟩ := second.running number named running
    obtain ⟨namedBefore, runningBefore, heldBefore⟩ := first.running number namedThen runningThen
    exact ⟨namedBefore, runningBefore, fun none => held (heldBefore none)⟩
  owner trigger number owned named := by
    obtain ⟨ownedThen, namedThen⟩ := second.owner trigger number owned named
    exact first.owner trigger number ownedThen namedThen

theorem rests (quiet : Quiet name state later) (rests : Rests state name) : Rests later name := by
  intro number named running
  obtain ⟨namedBefore, runningBefore, held⟩ := quiet.running number named running
  exact held (rests number namedBefore runningBefore)

theorem of_neutral (linked : Linked state) (neutral : Neutral state later) :
    Quiet name state later where
  running number named running := by
    rw [neutral.isRunning] at running
    have within := linked.tidy.range number (linked.tidy.running number running)
    rw [neutral.name number within] at named
    exact ⟨named, running, fun free => by rw [neutral.held, free]⟩
  owner trigger number owned named := by
    rw [neutral.owner_eq] at owned
    rw [neutral.name number (linked.range trigger number owned)] at named
    exact ⟨owned, named⟩

theorem of_unmoved (unmoved : Unmoved state later) : Quiet name state later where
  running number named running := by
    rw [unmoved.entry] at named running ⊢
    exact ⟨named, running, id⟩
  owner trigger number owned named := by
    rw [unmoved.owner] at owned
    rw [unmoved.entry] at named
    exact ⟨owned, named⟩

theorem of_shift (shift : Shift state later) : Quiet name state later where
  running number named running := by
    rw [shift.entry] at named running
    exact ⟨named, running, fun free => by rw [shift.entry, free]⟩
  owner trigger number owned named := by
    rw [shift.owner] at owned
    rw [shift.entry] at named
    exact ⟨owned, named⟩

theorem of_other (other : (state.entry number).name ≠ name) (inside : Local number state later) :
    Quiet name state later := by
  have entry : ∀ task, (later.entry task).name = name → later.entry task = state.entry task := by
    intro task named
    apply inside.others task
    rintro rfl
    exact other (inside.name.symm.trans named)
  refine ⟨fun task named running => ?_, fun trigger task owned named => ?_⟩
  · have same := entry task named
    rw [same] at named running ⊢
    exact ⟨named, running, id⟩
  · rw [← entry task named]
    refine ⟨?_, named⟩
    by_cases within : trigger < state.triggers.size
    · exact (inside.owner_eq within).symm.trans owned
    · rcases inside.born trigger (Nat.le_of_not_lt within) with absent | ⟨mine, -⟩
      · rw [State.owner, absent] at owned; cases owned
      · obtain rfl := Option.some.inj (mine.symm.trans owned)
        exact absurd (inside.name.symm.trans named) other

theorem updateEntry {change : Entry → Entry}
    (named : ∀ entry, (change entry).name = entry.name)
    (running : (change (state.entry number)).isRunning = true →
      (state.entry number).isRunning = true)
    (held : (state.entry number).trigger = none → (change (state.entry number)).trigger = none) :
    Quiet name state (state.updateEntry number change) := by
  have changed := fun task => state.entry_updateEntry_cases number task change
  refine ⟨fun task taskNamed taskRunning => ?_, fun trigger task owned taskNamed => ⟨owned, ?_⟩⟩
  · rcases changed task with same | ⟨rfl, new⟩
    · rw [same] at taskNamed taskRunning ⊢
      exact ⟨taskNamed, taskRunning, id⟩
    · rw [new] at taskNamed taskRunning ⊢
      exact ⟨(named _).symm.trans taskNamed, running taskRunning, held⟩
  · rcases changed task with same | ⟨rfl, new⟩
    · rw [← same]; exact taskNamed
    · rw [new, named] at taskNamed; exact taskNamed

theorem commit (state : State) (trigger : Nat) (decided : Outcome) (callback : Option Work) :
    Quiet name state (state.commit trigger decided callback).1 := by
  refine ⟨fun task named running => ?_, fun other task owned named => ?_⟩
  · rw [entry_commit] at named running ⊢
    exact ⟨named, running, id⟩
  · rw [owner_commit] at owned
    rw [entry_commit] at named
    exact ⟨owned, named⟩

theorem breakOff (state : State) (number : Nat) (report : Report) :
    Quiet name state (state.breakOff number report) :=
  updateEntry (fun _ => rfl) (by rintro ⟨⟩) fun _ => rfl

theorem endChain (state : State) (number trigger : Nat) :
    Quiet name state (state.endChain number trigger).1 := by
  refine updateEntry (fun entry => ?_) ?_ ?_
  · unfold Entry.release; split <;> rfl
  · unfold Entry.release; split <;> exact id
  · unfold Entry.release; split
    · exact fun _ => rfl
    · exact id

theorem abandonChain (linked : Linked state) (number trigger : Nat) (report : Report) :
    Quiet name state (state.abandonChain number trigger report).1 := by
  have dropped : ∀ middle : State,
      Quiet name middle (middle.updateEntry number fun entry => entry.dropStop trigger) :=
    fun middle => updateEntry (fun _ => rfl) id id
  unfold State.abandonChain
  dsimp only
  split
  · exact (breakOff state number report).trans (dropped _)
  · exact (of_neutral linked (.countError _ _ _)).trans (dropped _)

theorem complain (linked : Linked state) (trigger : Nat) (target : Work) (stage : String)
    (failure : Failure) : Quiet name state (state.complain trigger target stage failure).1 := by
  rcases state.complain_state trigger target stage failure with unmoved | ⟨number, report, same⟩
  · exact of_neutral linked unmoved.neutral
  · rw [same]
    exact abandonChain linked number trigger report

theorem stopChain {trigger : Nat} (running : (state.entry number).status = .running)
    (held : (state.entry number).trigger = some trigger) (callback : Work) :
    Quiet name state (state.stopChain number callback).1 := by
  rw [stopChain_eq running held callback]
  have stopped : Quiet name state
      (state.updateEntry number fun entry => entry.stop trigger callback) :=
    updateEntry (fun _ => rfl) (by rintro ⟨⟩) id
  exact (stopped.trans (commit _ _ _ _)).trans (of_unmoved (.tell _ _ _))

theorem effect {deeds : List Deed} (effect : Effect state deeds later) :
    Linked state → (∀ number, .started number ∉ deeds) → Quiet name state later := by
  induction effect with
  | neutral neutral => exact fun linked _ => of_neutral linked neutral
  | start mode args member idle => exact fun _ none => absurd List.mem_cons_self (none _)
  | stop running held called => exact fun _ _ => stopChain running held _
  | trans earlier _ first second =>
    intro linked none
    refine (first linked fun number member => none number ?_).trans
      (second (linked.effect earlier) fun number member => none number ?_)
    · exact List.mem_append_left _ member
    · exact List.mem_append_right _ member

theorem ending (rests : Rests state name) (linked : Linked state) {trigger : Nat}
    {args : List Value} {mode : Mode} {outcome : Signal} {move : Move}
    (ending : Ending state number trigger args mode outcome later move) :
    Quiet name state later := by
  by_cases named : (state.entry number).name = name
  · cases ending with
    | goesOn noted running held =>
      rw [rests number named running] at held
      cases held
    | finished reports noted finished =>
      exact (of_neutral linked noted.neutral).trans (endChain _ _ _)
  · exact of_other named ending.local

theorem reply (rests : Rests state name) (linked : Linked state) {signal : Signal}
    {frame : Frame} {move : Move}
    (replies : Reply state agent signal frame later move)
    (none : ∀ number, .started number ∉ state.frameDeeds agent signal frame) :
    Quiet name state later := by
  cases replies with
  | plain _ _ unmoved => exact of_unmoved unmoved
  | request _ effect => exact Quiet.effect effect linked none
  | passed => exact .refl _ _
  | dispatched => exact .refl _ _
  | calledBack => exact .refl _ _
  | waits _ _ _ _ unmoved => exact of_unmoved unmoved
  | proceeds => exact commit _ _ _ _
  | obeys _ _ unmoved => exact of_unmoved unmoved
  | cancelled _ _ _ unmoved => exact of_unmoved unmoved
  | breaks =>
    exact (commit _ _ _ _).trans (complain (linked.commit _ (by decide)) _ _ _ _)
  | complains => exact complain linked _ _ _ _
  | fires _ unmoved =>
    exact Quiet.trans (of_neutral linked (.noteRun _ _ _)) (of_unmoved unmoved)
  | misfires => exact .refl _ _
  | settles number trigger args => exact endChain _ _ _
  | ran number trigger args mode work => exact ending rests linked (endRun_ending _ _ _ _ _ _ _)
  | callsBack _ _ _ unmoved => exact of_unmoved unmoved
  | regrets => exact of_neutral linked (.countError _ _ _)

end Quiet

/-- A step that neither is asked to start the task of a name nor starts it anew is quiet. -/
theorem Sound.quiet (sound : Sound state) {next : State} (rests : Rests state name)
    (stepped : state.step = some next) (unasked : ¬ state.AsksFor name)
    (fresh : ¬ state.Resumes name) : Quiet name state next := by
  cases step_advance sound.awake stepped with
  | passes agent idle turns => exact .of_shift turns.toShift
  | ends agent signal active turns => exact .of_shift turns.toShift
  | answers agent frame rest signal active same =>
    have replied := sound.replied active
    rw [same]
    refine Quiet.trans ?_ (.of_shift replied.turns.toShift)
    by_cases started : ∃ number, .started number ∈ state.frameDeeds agent signal frame
    · obtain ⟨number, member⟩ := started
      have starts := starts_of_deeds member
      obtain ⟨value, rfl⟩ := starts.resumed
      obtain ⟨mode, args, answer⟩ := starts.answer
      rw [answer]
      refine .of_other (fun named => ?_) (startChain_local mode args starts.member starts.idle)
      have asks := starts.asks
      rw [named] at asks
      cases frame with
      | perform operation => exact unasked ⟨agent, operation, rest, value, active, asks⟩
      | call work args => exact fresh ⟨agent, work, args, rest, value, active, asks⟩
      | _ => cases asks
    · exact Quiet.reply rests sound.linked replied.reply fun number member =>
        started ⟨number, member⟩

/-! ### Stops -/

def Ends (state : State) (name : String) : Operation → Prop
  | .stop (some other) _ => other = name
  | .stop none _ | .shutdown _ _ => True
  | .remove other => other = name ∧ (state.removeTask name).2 = true
  | _ => False

theorem Linked.find?_of_running (linked : Linked state)
    (named : (state.entry number).name = name) (running : (state.entry number).isRunning = true) :
    state.find? name = some number := by
  have member := linked.tidy.running number running
  cases found : state.find? name with
  | none => exact absurd named (find?_none found member)
  | some other =>
    obtain ⟨otherMember, otherNamed⟩ := find?_mem found
    rw [linked.tidy.unique other otherMember number member (otherNamed.trans named.symm)]

theorem Rests.of_stopChain (linked : Linked state) (found : state.find? name = some number)
    (callback : Work) : Rests (state.stopChain number callback).1 name := by
  cases stoppable : state.stoppable? number with
  | none =>
    rw [stopChain_none stoppable]
    intro other named running
    obtain rfl := Option.some.inj (found.symm.trans (linked.find?_of_running named running))
    apply Option.eq_none_iff_forall_ne_some.mpr
    intro trigger held
    rw [stoppable?, isRunning_iff.mp running, held] at stoppable
    cases stoppable
  | some trigger =>
    obtain ⟨running, held⟩ := stoppable?_some stoppable
    have owned := ((linked.tasks number).held trigger held).1
    have inside := stopChain_local running held owned callback
    intro other named otherRunning
    have stopped := entry_stopChain running held (linked.range trigger number owned) callback
    have different : other ≠ number := by
      rintro rfl
      rw [stopped] at otherRunning
      cases otherRunning
    rw [inside.others other different] at named otherRunning
    exact absurd (Option.some.inj ((linked.find?_of_running named otherRunning).symm.trans found))
      different

theorem Rests.of_stopNamed {callback : Work} (called : callback.isCallback = true)
    {names : List String} (linked : Linked state) (member : name ∈ names) :
    Rests (state.stopNamed callback names).1 name := by
  induction names generalizing state with
  | nil => cases member
  | cons first rest ih =>
    unfold stopNamed
    cases found : state.find? first with
    | none =>
      rcases List.mem_cons.mp member with rfl | member
      · have quiet : Quiet name state (state.stopNamed callback rest).1 :=
          .effect (stopNamed_effect called rest) linked fun _ => not_mem_stopDeeds _ _
        apply quiet.rests
        intro number named running
        rw [linked.find?_of_running named running] at found
        cases found
      · exact ih linked member
    | some number =>
      have stopped := linked.effect (stopChain_effect called number)
      rcases List.mem_cons.mp member with rfl | member
      · have quiet : Quiet name (state.stopChain number callback).1
            ((state.stopChain number callback).1.stopNamed callback rest).1 :=
          .effect (stopNamed_effect called rest) stopped fun _ => not_mem_stopDeeds _ _
        exact quiet.rests (.of_stopChain linked found callback)
      · exact ih stopped member

theorem Rests.of_stopAll (name : String) {callback : Work} (called : callback.isCallback = true)
    (linked : Linked state) : Rests (state.stopNamed callback state.names).1 name := by
  by_cases member : name ∈ state.names
  · exact .of_stopNamed called linked member
  · have quiet : Quiet name state (state.stopNamed callback state.names).1 :=
      .effect (stopNamed_effect called _) linked fun _ => not_mem_stopDeeds _ _
    refine quiet.rests fun number named running => absurd ?_ member
    exact List.mem_map.mpr ⟨number, linked.tidy.running number running, named⟩

theorem Rests.of_removeTask (linked : Linked state) (removed : (state.removeTask name).2 = true) :
    Rests (state.removeTask name).1 name := by
  have entries : (state.removeTask name).1.entries = state.entries := by
    unfold removeTask
    split
    · rfl
    · split <;> rfl
  intro number named running
  have same : (state.removeTask name).1.entry number = state.entry number := by
    rw [entry, entries]; rfl
  rw [same] at named running
  have found := linked.find?_of_running named running
  unfold removeTask at removed
  simp only [found] at removed
  rw [if_pos running] at removed
  cases removed

/-- The task rests once the operation that stops or removes it has been performed. -/
theorem Rests.of_ends (linked : Linked state) {operation : Operation}
    (ends : state.Ends name operation) : Rests (state.perform agent operation).1 name := by
  have handed : ∀ callback, Linked (state.callbackOf callback).1 :=
    fun callback => linked.neutral (callbackOf_neutral callback)
  have called : ∀ callback, (state.callbackOf callback).2.isCallback = true :=
    fun callback => Work.isCallback_of_isGiven (callbackOf_given callback)
  cases operation with
  | stop target callback =>
    cases target with
    | some other =>
      obtain rfl : other = name := ends
      have rests := Rests.of_stopNamed (called callback) (handed callback)
        (List.mem_singleton.mpr (rfl : other = other))
      exact rests
    | none =>
      have rests := Rests.of_stopAll name (called callback) (handed callback)
      exact rests
  | shutdown callback timeout =>
    have rests := Rests.of_stopAll name (called callback) (handed callback)
    exact rests
  | remove other =>
    obtain ⟨rfl, removed⟩ := ends
    exact .of_removeTask linked removed
  | _ => cases ends

theorem Sound.rests_of_ends (sound : Sound state) {next : State} {operation : Operation}
    {rest : List Frame} {value : Value}
    (active : state.active = some ⟨agent, .perform operation :: rest, .ok value⟩)
    (ends : state.Ends name operation) (stepped : state.step = some next) : Rests next name := by
  have shift := (sound.replied_step active stepped).turns.toShift
  exact (Quiet.of_shift shift).rests (.of_ends sound.linked ends)

/-! ### Restarts -/

theorem Work.resumes_of_isGiven {work : Work} (given : work.isGiven = true) (name : String) :
    work.resumes name = false := by
  cases work <;> first | rfl | cases given

theorem Frame.resumes_of_isPlain {frame : Frame} (plain : frame.isPlain = true) (name : String) :
    frame.resumes name = false := by
  cases frame <;> first | rfl | cases plain

theorem callback_of_stopDeeds {trigger : Nat} {callback work : Work} {names : List String}
    (member : .stopped number trigger callback ∈ state.stopDeeds work names) : callback = work := by
  induction names generalizing state with
  | nil => cases member
  | cons first rest ih =>
    unfold stopDeeds at member
    split at member
    · exact ih member
    · next task _ =>
      rcases List.mem_append.mp member with member | member
      · cases stoppable : state.stoppable? task with
        | none => rw [stoppable] at member; cases member
        | some held =>
          rw [stoppable] at member
          cases List.mem_singleton.mp member
          rfl
      · exact ih member

theorem asks_of_stopped {signal : Signal} {frame : Frame} {trigger : Nat} {callback : Work}
    (stopped : .stopped number trigger callback ∈ state.frameDeeds agent signal frame)
    (resumes : callback.resumes name = true) :
    ∃ operation value, frame = .perform operation ∧ signal = .ok value ∧
      operation.asksFor name = true := by
  have given : ∀ {middle : State} {handed : Option Callable} {names : List String},
      .stopped number trigger callback ∉
        middle.stopDeeds (state.callbackOf handed).2 names := by
    intro middle handed names member
    rw [callback_of_stopDeeds member, Work.resumes_of_isGiven (callbackOf_given handed)] at resumes
    cases resumes
  cases signal with
  | error failure =>
    cases frame with
    | fired task other args mode work =>
      simp only [frameDeeds] at stopped
      split at stopped
      · cases stopped
      · cases List.mem_singleton.mp stopped
    | _ => cases stopped
  | ok value =>
    cases frame with
    | perform operation =>
      refine ⟨operation, value, rfl, rfl, ?_⟩
      cases operation with
      | start other mode args =>
        simp only [frameDeeds, operationDeeds] at stopped
        split at stopped
        · cases stopped
        · exact absurd stopped not_mem_startDeeds
      | restart other args =>
        simp only [frameDeeds, operationDeeds] at stopped
        split at stopped
        · cases stopped
        · split at stopped
          · cases List.mem_singleton.mp stopped
            exact resumes
          · exact absurd stopped not_mem_startDeeds
      | stop other callback => cases other <;> exact absurd stopped given
      | shutdown callback timeout => exact absurd stopped given
      | _ => cases stopped
    | call work args =>
      cases work with
      | resume other mode given =>
        simp only [frameDeeds] at stopped
        split at stopped
        · cases stopped
        · exact absurd stopped not_mem_startDeeds
      | _ => cases stopped
    | callback task work args => cases List.mem_singleton.mp stopped
    | fired task other args mode work => cases List.mem_singleton.mp stopped
    | _ => cases stopped

theorem PutsOff.of_entries (entries : later.entries = state.entries)
    (puts : later.PutsOff name) : state.PutsOff name := by
  obtain ⟨number, trigger, callback, found, resumes⟩ := puts
  rw [entry, entries] at found
  exact ⟨number, trigger, callback, found, resumes⟩

theorem PutsOff.of_callbackFrames {trigger : Nat} {args : List Value} {frame : Frame}
    (member : frame ∈ callbackFrames number ((state.entry number).stopCallback? trigger) args)
    (resumes : frame.resumes name = true) : state.PutsOff name := by
  obtain ⟨work, found, rfl⟩ := mem_callbackFrames member
  exact ⟨number, trigger, work, found, resumes⟩

theorem PutsOff.of_complain {trigger : Nat} {target : Work} {stage : String}
    {failure : Failure} {frame : Frame}
    (member : frame ∈ (state.complain trigger target stage failure).2.frames)
    (resumes : frame.resumes name = true) : state.PutsOff name := by
  rcases mem_complain member with plain | ⟨number, work, -, found, rfl⟩
  · rw [Frame.resumes_of_isPlain plain] at resumes
    cases resumes
  · exact ⟨number, trigger, work, found, resumes⟩

theorem PutsOff.of_ending {trigger : Nat} {args : List Value} {mode : Mode} {outcome : Signal}
    {move : Move} (ending : Ending state number trigger args mode outcome later move)
    {frame : Frame} (member : frame ∈ move.frames) (resumes : frame.resumes name = true) :
    state.PutsOff name := by
  rcases ending.mem_frames member with plain | ⟨work, found, rfl⟩
  · rw [Frame.resumes_of_isPlain plain] at resumes
    cases resumes
  · exact ⟨number, trigger, work, found, resumes⟩

theorem Linked.target?_resumes (linked : Linked state) {trigger : Nat} {target : Work}
    (called : (state.trigger trigger).target? = some target) : target.resumes name = false := by
  cases owned : state.owner trigger with
  | none =>
    obtain ⟨given, callback⟩ := linked.tidy.free trigger owned
    rcases target?_cases called with ⟨-, rfl⟩ | ⟨-, found⟩
    · exact Work.resumes_of_isGiven given name
    · exact Work.resumes_of_isGiven (callback target found) name
  | some number =>
    rcases linked.target?_owned called owned with ⟨-, rfl⟩ | ⟨-, rfl⟩ <;> rfl

/-- A frame that resumes a task comes from one that does, or from a pending stop. -/
theorem Reply.resumes (linked : Linked state) {signal : Signal} {frame : Frame} {move : Move}
    (reply : Reply state agent signal frame later move) :
    ∀ added ∈ move.frames, added.resumes name = true →
      frame.resumes name = true ∨ state.PutsOff name := by
  have plainly : ∀ {move : Move}, move.IsPlain → ∀ added ∈ move.frames,
      added.resumes name = true → frame.resumes name = true ∨ state.PutsOff name := by
    intro move plain added member resumes
    rw [Frame.resumes_of_isPlain (plain added member)] at resumes
    cases resumes
  have calls : ∀ {work : Work} {args : List Value} {further : Frame},
      work.resumes name = false → further.resumes name = false →
      ∀ added ∈ (Move.go [.call work args, further]).frames, added.resumes name = true →
        frame.resumes name = true ∨ state.PutsOff name := by
    intro work args further first second added member resumes
    rcases List.mem_cons.mp member with rfl | member
    · exact absurd (first.symm.trans resumes) (by rintro ⟨⟩)
    · rw [List.mem_singleton.mp member, second] at resumes; cases resumes
  cases reply with
  | plain _ _ _ plain => exact plainly plain
  | request _ _ plain => exact plainly plain
  | passed => exact plainly (.fail _)
  | dispatched => exact plainly (.give _)
  | calledBack => exact plainly (.give _)
  | waits pause deadline =>
    intro added member resumes
    rw [List.mem_singleton.mp member] at resumes
    cases resumes
  | @proceeds _ _ trigger =>
    refine calls ?_ rfl
    cases owned : state.owner trigger with
    | none => exact Work.resumes_of_isGiven (linked.tidy.free trigger owned).1 name
    | some number => rw [linked.work trigger number owned]; rfl
  | obeys _ called => exact calls (linked.target?_resumes called) rfl
  | cancelled => exact plainly (.give _)
  | breaks =>
    exact fun added member resumes =>
      .inr ((PutsOff.of_complain member resumes).of_entries (entries_commit _ _ _ _))
  | complains => exact fun added member resumes => .inr (.of_complain member resumes)
  | @fires _ number =>
    exact calls (Work.resumes_of_isGiven (linked.tidy.works number) name) rfl
  | misfires => exact plainly (.fail _)
  | settles number trigger args =>
    exact fun added member resumes => .inr (.of_callbackFrames member resumes)
  | ran number trigger args mode work =>
    exact fun added member resumes =>
      .inr (.of_ending (endRun_ending _ _ _ _ _ _ _) member resumes)
  | callsBack number work args =>
    intro added member resumes
    rcases List.mem_cons.mp member with rfl | member
    · exact .inl resumes
    · rw [List.mem_singleton.mp member] at resumes; cases resumes
  | regrets number work args report =>
    intro added member resumes
    rw [List.mem_singleton.mp member] at resumes
    cases resumes

theorem Resumes.owes (resumes : state.Resumes name) : state.Owes name := by
  obtain ⟨agent, work, args, rest, value, active, starts⟩ := resumes
  exact .inr ⟨agent, .call work args, by rw [stackOf_active active]; exact List.mem_cons_self, starts⟩

theorem Owes.of_turns {stack : List Frame} {signal : Signal}
    (turns : Turns state later agent stack signal) (owes : later.Owes name) :
    state.PutsOff name ∨ (∃ frame ∈ stack, frame.resumes name = true) ∨
      ∃ other, other ≠ agent ∧ ∃ frame ∈ state.stackOf other, frame.resumes name = true := by
  rcases owes with puts | ⟨other, frame, member, resumes⟩
  · exact .inl (.of_entries turns.entries puts)
  · by_cases same : other = agent
    · subst same
      rw [turns.stack] at member
      exact .inr (.inl ⟨frame, member, resumes⟩)
    · rw [turns.otherStacks other same] at member
      exact .inr (.inr ⟨other, same, frame, member, resumes⟩)

theorem Sound.owes (sound : Sound state) {next : State} (stepped : state.step = some next)
    (unasked : ¬ state.AsksFor name) (owes : next.Owes name) : state.Owes name := by
  cases step_advance sound.awake stepped with
  | passes agent idle turns =>
    rcases Owes.of_turns turns owes with puts | ⟨frame, member, resumes⟩ | ⟨other, -, found⟩
    · exact .inl puts
    · exact .inr ⟨agent, frame, member, resumes⟩
    · exact .inr ⟨other, found⟩
  | ends agent signal active turns =>
    rcases Owes.of_turns turns owes with puts | ⟨frame, member, -⟩ | ⟨other, -, found⟩
    · exact .inl puts
    · cases member
    · exact .inr ⟨other, found⟩
  | answers agent frame rest signal active same =>
    subst same
    have replied := sound.replied active
    have own : ∀ added ∈ frame :: rest, added.resumes name = true → state.Owes name :=
      fun added member resumes => .inr ⟨agent, added, by rw [stackOf_active active]; exact member,
        resumes⟩
    rcases Owes.of_turns replied.turns owes with
      ⟨number, trigger, callback, found, resumes⟩ | ⟨added, member, resumes⟩ |
        ⟨other, different, added, member, resumes⟩
    · rcases (Keeps.reply (replied.fits sound) replied.reply).pending number trigger with
        kept | ⟨-, taken⟩ | ⟨work, issued, stopped⟩
      · exact .inl ⟨number, trigger, callback, kept ▸ found, resumes⟩
      · rw [taken] at found; cases found
      · cases issued.symm.trans found
        obtain ⟨operation, value, rfl, rfl, asks⟩ := asks_of_stopped stopped resumes
        exact absurd ⟨agent, operation, rest, value, active, asks⟩ unasked
    · rcases List.mem_append.mp member with member | member
      · rcases replied.reply.resumes sound.linked added member resumes with before | puts
        · exact own frame List.mem_cons_self before
        · exact .inl puts
      · exact own added (List.mem_cons_of_mem _ member) resumes
    · rcases (replied.reply.grows sound.linked).stackOf active different with
        kept | ⟨trigger, -, -, started⟩
      · exact .inr ⟨other, added, kept ▸ member, resumes⟩
      · rw [started] at member
        rw [List.mem_singleton.mp member] at resumes
        cases resumes

theorem startChain_runs (within : number < state.entries.size)
    (idle : (state.entry number).isRunning = false) (mode : Mode) (args : List Value) :
    ((state.startChain number mode args).1.entry number).isRunning = true ∨
      (state.entry number).errors <
        ((state.startChain number mode args).1.entry number).errors := by
  obtain ⟨_, arming⟩ := startChain_arming mode args idle
  have becomes := arming.becomes (Nat.lt_of_lt_of_eq within (Store.size_update ..).symm)
  rw [entry_updateEntry_self within] at becomes
  generalize (state.startChain number mode args).1.entry number = after at becomes ⊢
  cases becomes with
  | raised => exact .inl rfl
  | brokenOff => exact .inr (Nat.lt_succ_self _)
  | armed => exact .inl rfl

/-- A start that was put off begins the chain of a task that is registered and idle. -/
theorem Sound.begins (sound : Sound state) {next : State} (resumes : state.Resumes name)
    (found : state.find? name = some number) (idle : (state.entry number).isRunning = false)
    (stepped : state.step = some next) : (next.entry number).isRunning = true ∨
      (state.entry number).errors < (next.entry number).errors := by
  obtain ⟨agent, work, args, rest, value, active, starts⟩ := resumes
  have shift := (sound.replied_step active stepped).turns.toShift
  rw [shift.entry]
  cases work with
  | resume task mode given =>
    obtain rfl : task = name := of_decide_eq_true starts
    have answer : (state.answer agent (.ok value) (.call (.resume task mode given) args)).1 =
        (state.startChain number mode (if given.isEmpty then args else given)).1 := by
      show (state.startNamed task mode _).1 = _
      simp only [startNamed, found]
    rw [answer]
    exact startChain_runs (sound.linked.tidy.range number (find?_mem found).1) idle _ _
  | _ => cases starts

theorem Linked.settled_of_rests (linked : Linked state) (rests : state.Rests name)
    (named : (state.entry number).name = name) : Settled state number := by
  intro trigger owned started undecided
  obtain ⟨held, running, -⟩ := (linked.tasks number).armed trigger owned started undecided
  have free := rests number named (isRunning_iff.mpr running)
  exact absurd (held.symm.trans free) (by rintro ⟨⟩)

end State

/-! ### Traces -/

namespace Trace

variable {first final : State} {later : List State} {name : String}

theorem owes (trace : Trace first later final) (sound : first.Sound)
    (unasked : ∀ visited ∈ later, ¬ visited.AsksFor name) (owes : final.Owes name) :
    first.Owes name := by
  induction trace with
  | refl => exact owes
  | @issue past state operation trace finished ih =>
    refine ih (fun visited member => unasked visited (List.mem_cons_of_mem _ member)) ?_
    rcases State.Owes.of_turns (State.activateMain_turns (State.mainHasFinished_idle finished) _)
      owes with puts | ⟨frame, member, resumes⟩ | ⟨other, -, found⟩
    · exact .inl puts
    · rw [List.mem_singleton.mp member] at resumes; cases resumes
    · exact .inr ⟨other, found⟩
  | step trace stepped ih =>
    refine ih (fun visited member => unasked visited (List.mem_cons_of_mem _ member)) ?_
    exact (trace.sound sound).owes stepped (unasked _ List.mem_cons_self) owes

theorem quiet (trace : Trace first later final) (sound : first.Sound)
    (rests : first.Rests name) (unasked : ∀ visited ∈ later, ¬ visited.AsksFor name)
    (fresh : ∀ visited ∈ later, ¬ visited.Resumes name) : State.Quiet name first final := by
  induction trace with
  | refl => exact .refl _ _
  | issue operation trace finished ih =>
    have before := ih (fun visited member => unasked visited (List.mem_cons_of_mem _ member))
      fun visited member => fresh visited (List.mem_cons_of_mem _ member)
    exact before.trans (.of_shift
      (State.activateMain_turns (State.mainHasFinished_idle finished) _).toShift)
  | step trace stepped ih =>
    have before := ih (fun visited member => unasked visited (List.mem_cons_of_mem _ member))
      fun visited member => fresh visited (List.mem_cons_of_mem _ member)
    exact before.trans ((trace.sound sound).quiet (before.rests rests) stepped
      (unasked _ List.mem_cons_self) (fresh _ List.mem_cons_self))

/-- Once a stop, a shutdown or a removal has reached the task of a name, and for as long as nobody
asks for a start of it, the task does not run again and no trigger is armed for it, unless a start
is made that a restart had put off before the stop. Such a start makes the task run, if it can be
armed. -/
theorem stop_final_unless_owed {setting : Setting} {past : List State} {stopped : State}
    {agent : Agent} {operation : Operation} {rest : List Frame} {value : Value}
    (before : Trace (.initial setting) past stopped)
    (active : stopped.active = some ⟨agent, .perform operation :: rest, .ok value⟩)
    (ends : stopped.Ends name operation) (stepped : stopped.step = some first)
    (after : Trace first later final) (unasked : ∀ visited ∈ later, ¬ visited.AsksFor name) :
    ((∀ visited ∈ later, ¬ visited.Resumes name) →
      State.Quiet name first final ∧ final.Rests name ∧
        ∀ number, (final.entry number).name = name → State.Settled final number) ∧
      (∀ visited ∈ later, visited.Resumes name → first.Owes name) ∧
      ∀ visited ∈ later, visited.Resumes name → ∀ number, visited.find? name = some number →
        (visited.entry number).isRunning = false → ∀ next, visited.step = some next →
        (next.entry number).isRunning = true ∨
          (visited.entry number).errors < (next.entry number).errors := by
  have stopSound := before.sound (.initial setting)
  have sound := stopSound.step stepped
  have rests := stopSound.rests_of_ends active ends stepped
  refine ⟨fun fresh => ?_, fun visited member resumes => ?_, ?_⟩
  · have quiet := after.quiet sound rests unasked fresh
    have still := quiet.rests rests
    exact ⟨quiet, still, fun number named =>
      (after.sound sound).linked.settled_of_rests still named⟩
  · obtain ⟨earlier, reached, sub⟩ := after.visited (List.mem_cons_of_mem _ member)
    exact reached.owes sound (fun other found => unasked other (sub other found)) resumes.owes
  · intro visited member resumes number found idle next goes
    obtain ⟨earlier, reached, -⟩ := after.visited (List.mem_cons_of_mem _ member)
    exact (reached.sound sound).begins resumes found idle goes

/-- The session in which a task is added, started and stopped. -/
theorem stop_final_started : ∃ past stopped first final,
    Trace (.initial (.ofRules 0 .universal)) past stopped ∧ (stopped.entry 0).isRunning = true ∧
      stopped.step = some first ∧ Trace first [first] final ∧
      State.Quiet "job" first final ∧ final.Rests "job" ∧ State.Settled final 0 := by
  have begun : Trace (.initial (.ofRules 0 .universal)) [] _ := .refl
  obtain ⟨added, trace⟩ := begun.perform_perform rfl
    ⟨.add "job" (.text "* * * * *") (.script "work" []), true⟩ ⟨.start "job" .chain [], true⟩ rfl
  have issued := trace.issue (.stop (some "job") none) rfl
  refine ⟨_, _, _, _, issued, rfl, rfl, .step .refl rfl, ?_⟩
  have still := stop_final_unless_owed issued rfl (show State.Ends _ "job" _ from rfl) rfl (.step .refl rfl)
    (by
      rintro visited member ⟨agent, operation, rest, value, active, -⟩
      rw [List.mem_singleton.mp member] at active
      cases active)
  obtain ⟨quiet, rests, settled⟩ := still.1
    (by
      rintro visited member ⟨agent, work, args, rest, value, active, -⟩
      rw [List.mem_singleton.mp member] at active
      cases active)
  exact ⟨quiet, rests, settled 0 rfl⟩

/-- A task that is restarted, and then stopped or shut down before the stop of the restart has settled,
runs again. -/
theorem restart_outlives_stop (operation : Operation)
    (member : operation ∈ [.stop (some "job") none, .stop none none, .shutdown none none]) :
    (Session.run (.initial (.ofRules 0 .universal)) [
        ⟨.add "job" (.text "* * * * *") (.script "work" []), true⟩,
        ⟨.start "job" .chain [], true⟩,
        ⟨.restart "job" [], false⟩,
        ⟨operation, true⟩]).map (fun item => (item.after.entry 0).status) =
      [.idle, .running, .idle, .running] := by
  simp only [List.mem_cons, List.not_mem_nil, or_false] at member
  rcases member with rfl | rfl | rfl <;> rfl

end Trace

end Timetable
