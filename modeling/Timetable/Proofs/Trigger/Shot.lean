import Timetable.Proofs.Trigger.Decided

/-! The one shot of a trigger.

The thread of a trigger waits, makes at most one call and reports at most one failure. Its frames lie
at the bottom of its own stack, one at a time: the one in which it waits, or the one that its call
stands on. Whatever the call does happens above it.
-/

set_option autoImplicit false

namespace Timetable

def Frame.isBase : Frame → Bool
  | .countdown _ | .waited _ | .dispatched _ _ => true
  | _ => false

def Frame.isCall : Frame → Bool
  | .call _ _ => true
  | _ => false

theorem Frame.isBase_of_isPlain {frame : Frame} (plain : frame.isPlain = true) :
    frame.isBase = false ∧ frame.isCall = false := by
  cases frame <;> first | exact ⟨rfl, rfl⟩ | cases plain

theorem Frame.counting?_of_baseless {frame : Frame} (baseless : frame.isBase = false)
    (trigger : Nat) : frame.counting? ≠ some trigger := by
  cases frame <;> first | (rintro ⟨⟩; done) | cases baseless

def Inert (frames : List Frame) : Prop :=
  ∀ frame ∈ frames, frame.isBase = false ∧ frame.isCall = false

namespace Inert

variable {frames above : List Frame}

theorem nil : Inert [] :=
  fun _ member => absurd member List.not_mem_nil

theorem of_isPlain {move : Move} (plain : move.IsPlain) : Inert move.frames :=
  fun frame member => Frame.isBase_of_isPlain (plain frame member)

end Inert

/-- Frames that a call of a trigger leaves above the frame that it stands on: the trigger puts none of
its own there, and the last one is not another call. -/
structure Overlay (frames : List Frame) : Prop where
  baseless : ∀ frame ∈ frames, frame.isBase = false
  called : ∀ frame, frames.getLast? = some frame → frame.isCall = false

namespace Overlay

variable {frames above : List Frame}

theorem of_inert (inert : Inert frames) : Overlay frames :=
  ⟨fun frame member => (inert frame member).1, fun frame last =>
    (inert frame (List.mem_of_getLast? last)).2⟩

theorem append (first : Overlay frames) (second : Overlay above) : Overlay (frames ++ above) where
  baseless frame member :=
    (List.mem_append.mp member).elim (first.baseless frame) (second.baseless frame)
  called frame last := by
    rw [List.getLast?_append] at last
    cases found : above.getLast? with
    | none => rw [found] at last; exact first.called frame last
    | some other =>
      rw [found] at last
      exact second.called frame (found.trans last)

theorem tail {frame : Frame} (overlay : Overlay (frame :: above)) : Overlay above where
  baseless other member := overlay.baseless other (List.mem_cons_of_mem _ member)
  called other last := overlay.called other (by rw [List.getLast?_cons, last]; rfl)

theorem cons_of_called {frame other : Frame} (based : frame.isBase = false)
    (overlay : Overlay [other]) : Overlay [frame, other] := by
  refine ⟨fun added member => ?_, fun last same => overlay.called last same⟩
  rcases List.mem_cons.mp member with rfl | member
  · exact based
  · exact overlay.baseless added member

end Overlay

theorem Trigger.Alike.report {made other : Trigger} (alike : made.Alike other) (target : Work)
    (stage : String) (failure : Failure) :
    State.triggerReport other target stage failure =
      State.triggerReport made target stage failure := by
  unfold State.triggerReport
  rw [alike.name, alike.due, alike.args]

namespace State

variable {state later : State} {agent : Agent} {trigger number : Nat}

theorem callbackFrames_inert (number : Nat) (callback : Option Work) (args : List Value) :
    Inert (callbackFrames number callback args) := by
  intro frame member
  obtain ⟨work, -, rfl⟩ := mem_callbackFrames member
  exact ⟨rfl, rfl⟩

theorem reports_inert (reports : List Report) : Inert (reports.map Frame.report) := by
  intro frame member
  obtain ⟨report, -, rfl⟩ := List.mem_map.mp member
  exact ⟨rfl, rfl⟩

theorem complain_inert (state : State) (trigger : Nat) (target : Work) (stage : String)
    (failure : Failure) : Inert (state.complain trigger target stage failure).2.frames := by
  intro frame member
  rcases mem_complain member with plain | ⟨number, work, -, -, rfl⟩
  · exact Frame.isBase_of_isPlain plain
  · exact ⟨rfl, rfl⟩

theorem Ending.inert {args : List Value} {mode : Mode} {outcome : Signal} {move : Move}
    (ending : Ending state number trigger args mode outcome later move) : Inert move.frames := by
  intro frame member
  rcases ending.mem_frames member with plain | ⟨work, -, rfl⟩
  · exact Frame.isBase_of_isPlain plain
  · exact ⟨rfl, rfl⟩

/-- `Calling state frame work args base`: a frame answers with a call that stands on another frame. -/
inductive Calling (state : State) : Frame → Work → List Value → Frame → Prop where
  | proceeds {frame : Frame} {trigger : Nat} : frame.CountsDown trigger →
      state.outcome trigger = none →
      Calling state frame (state.trigger trigger).work (state.trigger trigger).args
        (.dispatched trigger (state.trigger trigger).work)
  | obeys {frame : Frame} {trigger : Nat} {target : Work} : frame.CountsDown trigger →
      (state.trigger trigger).target? = some target →
      Calling state frame target (state.trigger trigger).args (.dispatched trigger target)
  | fires (number trigger : Nat) (args : List Value) :
      Calling state (.call (.fire number trigger) args) (state.entry number).work args
        (.fired number trigger args (state.entry number).mode (state.entry number).work)
  | callsBack (number : Nat) (work : Work) (args : List Value) :
      Calling state (.callback number work args) work args (.calledBack number work args)

/-- What a frame puts in its place: inert frames, a call, or the frame in which a trigger that is
undecided goes on waiting. -/
inductive Puts (state later : State) (frame : Frame) : Signal → Move → Prop where
  | inert {signal : Signal} {move : Move} : Inert move.frames →
      Puts state later frame signal move
  | calls {value : Value} (work : Work) (args : List Value) (base : Frame) :
      Calling state frame work args base →
      Puts state later frame (.ok value) (.go [.call work args, base])
  | waits {value : Value} {trigger : Nat} (pause : Pause) (deadline : Option Instant) :
      frame.CountsDown trigger → state.outcome trigger = none → Unmoved state later →
      Puts state later frame (.ok value) (.wait [.waited trigger] pause deadline)

theorem Reply.puts {signal : Signal} {frame : Frame} {move : Move}
    (reply : Reply state agent signal frame later move) :
    Puts state later frame signal move := by
  cases reply with
  | plain _ _ _ plain => exact .inert (.of_isPlain plain)
  | request _ _ plain => exact .inert (.of_isPlain plain)
  | passed => exact .inert .nil
  | dispatched => exact .inert .nil
  | calledBack => exact .inert .nil
  | waits pause deadline counts undecided unmoved =>
    exact .waits pause deadline counts undecided unmoved
  | proceeds counts undecided => exact .calls _ _ _ (.proceeds counts undecided)
  | obeys counts found => exact .calls _ _ _ (.obeys counts found)
  | cancelled => exact .inert .nil
  | breaks => exact .inert (complain_inert _ _ _ _ _)
  | complains => exact .inert (complain_inert _ _ _ _ _)
  | fires => exact .calls _ _ _ (.fires _ _ _)
  | misfires => exact .inert .nil
  | settles => exact .inert (callbackFrames_inert _ _ _)
  | ran => exact .inert (endRun_ending _ _ _ _ _ _ _).inert
  | callsBack number work args => exact .calls _ _ _ (.callsBack number work args)
  | regrets _ _ _ report => exact .inert (reports_inert [report])

/-- Frames that are not the bottom of a stack leave no such frame. -/
theorem Reply.overlay {signal : Signal} {frame : Frame} {move : Move}
    (reply : Reply state agent signal frame later move) (baseless : frame.isBase = false) :
    Overlay move.frames := by
  have uncounted : ∀ {counting : Nat}, ¬ frame.CountsDown counting := by
    rintro counting (_ | _) <;> cases baseless
  have called : ∀ {work : Work} {args : List Value} {base : Frame}, base.isBase = false →
      base.isCall = false → Overlay [.call work args, base] := by
    intro work args base based uncalled
    refine .cons_of_called rfl (.of_inert fun frame member => ?_)
    rw [List.mem_singleton.mp member]
    exact ⟨based, uncalled⟩
  cases reply.puts with
  | inert inert => exact .of_inert inert
  | calls work args base calling =>
    cases calling with
    | proceeds counts => exact absurd counts uncounted
    | obeys counts => exact absurd counts uncounted
    | fires => exact called rfl rfl
    | callsBack => exact called rfl rfl
  | waits _ _ counts => exact absurd counts uncounted

/-! ### What a trigger does -/

def invocation? (state : State) (trigger : Nat) : Option (Work × List Value) :=
  match state.active with
  | some ⟨_, .call work args :: .dispatched calling _ :: _, .ok _⟩ =>
    if calling = trigger then some (work, args) else none
  | _ => none

/-- The fault for which the next step gives up waiting for the time of an undecided trigger. -/
def delayFault? (state : State) (trigger : Nat) : Option Fault :=
  match state.active with
  | some ⟨_, frame :: _, .ok _⟩ =>
    if frame.counting? = some trigger ∧ state.outcome trigger = none then
      match untilDue state.clock (state.trigger trigger).due state.setting.home with
      | .error fault => some fault
      | .ok _ => none
    else none
  | _ => none

def delayReport (trigger : Trigger) (fault : Fault) : Report :=
  triggerReport trigger trigger.work "waiting for" fault.failure

def callReport (trigger : Trigger) (target : Work) (failure : Failure) : Report :=
  triggerReport trigger target "running" failure

def delivery? (state : State) (trigger : Nat) : Option Report :=
  match state.active with
  | some ⟨_, .dispatched calling target :: _, .error failure⟩ =>
    if calling = trigger ∧ failure.leaves = false then
      some (callReport (state.trigger trigger) target failure)
    else none
  | _ => (state.delayFault? trigger).map (delayReport (state.trigger trigger))

/-- What a trigger has done: its calls, the faults for which it gave up waiting, and the reports that
were delivered for it. -/
structure Doings where
  calls : List (Work × List Value)
  faults : List Fault
  reports : List Report

def Doings.none : Doings := ⟨[], [], []⟩

def Doings.append (first second : Doings) : Doings :=
  ⟨first.calls ++ second.calls, first.faults ++ second.faults, first.reports ++ second.reports⟩

@[simp] theorem Doings.append_none (doings : Doings) : doings.append .none = doings := by
  simp [append, none]

def doings (state : State) (trigger : Nat) : Doings where
  calls := (state.invocation? trigger).toList
  faults := (state.delayFault? trigger).toList
  reports := (state.delivery? trigger).toList

def done (trigger : Nat) (past : List State) : Doings where
  calls := past.reverse.filterMap fun state => state.invocation? trigger
  faults := past.reverse.filterMap fun state => state.delayFault? trigger
  reports := past.reverse.filterMap fun state => state.delivery? trigger

theorem done_cons (trigger : Nat) (past : List State) (state : State) :
    done trigger (state :: past) = (done trigger past).append (state.doings trigger) := by
  have last : ∀ {α : Type} (found : State → Option α),
      [state].filterMap found = (found state).toList := by
    intro α found
    cases same : found state <;> simp [same]
  simp only [done, Doings.append, doings, List.reverse_cons, List.filterMap_append, last]

theorem doings_idle (idle : state.active = none) (trigger : Nat) :
    state.doings trigger = .none := by
  simp [doings, invocation?, delayFault?, delivery?, idle, Doings.none]

theorem doings_ended {signal : Signal} (active : state.active = some ⟨agent, [], signal⟩)
    (trigger : Nat) : state.doings trigger = .none := by
  simp [doings, invocation?, delayFault?, delivery?, active, Doings.none]

/-- Nothing is done for a trigger whose frames are not at the top. -/
theorem doings_of_baseless {frame : Frame} {rest : List Frame} {signal : Signal}
    (active : state.active = some ⟨agent, frame :: rest, signal⟩)
    (counting : frame.counting? ≠ some trigger)
    (calling : ∀ target, frame ≠ .dispatched trigger target)
    (called : ∀ work args target below, frame = .call work args →
      rest ≠ .dispatched trigger target :: below) :
    state.doings trigger = .none := by
  have silent : state.invocation? trigger = none := by
    unfold invocation?
    rw [active]
    split
    · next eq =>
      cases eq
      refine if_neg ?_
      rintro rfl
      exact called _ _ _ _ rfl rfl
    · rfl
  have patient : state.delayFault? trigger = none := by
    unfold delayFault?
    rw [active]
    split
    · next eq =>
      cases eq
      exact if_neg fun both => counting both.1
    · rfl
  have content : state.delivery? trigger = none := by
    unfold delivery?
    rw [patient, active]
    split
    · next eq =>
      cases eq
      refine if_neg ?_
      rintro ⟨rfl, -⟩
      exact calling _ rfl
    · rfl
  simp [doings, silent, patient, content, Doings.none]

/-! ### The stages of a trigger -/

inductive Shot (number : Nat) (made : Trigger) (stack : List Frame) (signal : Signal) :
    Doings → Prop where
  /-- It waits until it is due or decided. -/
  | waits (frame : Frame) (value : Value) : frame.CountsDown number → stack = [frame] →
      signal = .ok value → Shot number made stack signal .none
  /-- It is about to make its call. -/
  | calls (target : Work) (value : Value) : made.target? = some target →
      stack = [.call target made.args, .dispatched number target] → signal = .ok value →
      Shot number made stack signal .none
  /-- Its call is under way. -/
  | called (target : Work) (above : List Frame) : made.target? = some target →
      stack = above ++ [.dispatched number target] → Overlay above →
      Shot number made stack signal ⟨[(target, made.args)], [], []⟩
  /-- Its call has come to its end. -/
  | obeyed (target : Work) (reports : List Report) : made.target? = some target →
      (∀ frame ∈ stack, frame.isBase = false) →
      (reports = [] ∨ ∃ failure, reports = [callReport made target failure]) →
      Shot number made stack signal ⟨[(target, made.args)], [], reports⟩
  /-- It was decided that it makes no call. -/
  | cancelled : made.decision.outcome ≠ none → made.target? = none →
      (∀ frame ∈ stack, frame.isBase = false) → Shot number made stack signal .none
  /-- It could not wait for its time. -/
  | broken (fault : Fault) : made.decision.outcome = some .cancel →
      (∀ frame ∈ stack, frame.isBase = false) →
      Shot number made stack signal ⟨[], [fault], [delayReport made fault]⟩

theorem Trigger.decided_of_target? {made : Trigger} {target : Work}
    (found : made.target? = some target) : made.decision.outcome ≠ none := by
  intro undecided
  rw [Trigger.target?, undecided] at found
  cases found

theorem alike_callReport {made other : Trigger} (alike : made.Alike other) (target : Work)
    (failure : Failure) : callReport other target failure = callReport made target failure :=
  alike.report target _ failure

theorem alike_delayReport {made other : Trigger} (alike : made.Alike other) (fault : Fault) :
    delayReport other fault = delayReport made fault := by
  rw [delayReport, alike.report, alike.work]
  rfl

namespace Shot

variable {made other : Trigger} {stack : List Frame} {signal : Signal} {done : Doings}

/-- Commitments of others change nothing once the trigger is decided, and it waits on before. -/
theorem congr (shot : Shot number made stack signal done) (alike : made.Alike other)
    (lasting : made.decision.outcome ≠ none → other.decision = made.decision) :
    Shot number other stack signal done := by
  have same : ∀ {target : Work}, made.target? = some target → other.target? = some target := by
    intro target found
    rw [Trigger.target?, lasting (Trigger.decided_of_target? found), alike.work]
    exact found
  cases shot with
  | waits frame value counts stacked ok => exact .waits frame value counts stacked ok
  | calls target value found stacked ok =>
    exact .calls target value (same found) (alike.args ▸ stacked) ok
  | called target above found stacked overlay =>
    rw [← alike.args]
    exact .called target above (same found) stacked overlay
  | obeyed target reports found baseless told =>
    rw [← alike.args]
    refine .obeyed target reports (same found) baseless (told.imp_right ?_)
    rintro ⟨failure, rfl⟩
    exact ⟨failure, congrArg (fun report => [report]) (alike_callReport alike target failure).symm⟩
  | cancelled decided absent baseless =>
    have kept := lasting decided
    refine .cancelled (kept ▸ decided) ?_ baseless
    rw [Trigger.target?, kept, alike.work]
    exact absent
  | broken fault cancelled baseless =>
    rw [← alike_delayReport alike fault]
    refine .broken fault ?_ baseless
    rw [lasting (by rw [cancelled]; rintro ⟨⟩)]
    exact cancelled

theorem ended (shot : Shot number made [] signal done) (another : Signal) :
    Shot number made [] another done := by
  cases shot with
  | waits _ _ _ stacked => cases stacked
  | calls _ _ _ stacked => cases stacked
  | called _ above _ stacked => cases above <;> cases stacked
  | obeyed target reports found baseless told => exact .obeyed target reports found baseless told
  | cancelled decided absent baseless => exact .cancelled decided absent baseless
  | broken fault cancelled baseless => exact .broken fault cancelled baseless

theorem spent (shot : Shot number made [] signal done) : made.decision.outcome ≠ none ∧
    done.calls = (made.target?.map fun target => (target, made.args)).toList := by
  have called : ∀ {target : Work}, made.target? = some target → made.decision.outcome ≠ none ∧
      [(target, made.args)] = (made.target?.map fun target => (target, made.args)).toList :=
    fun found => ⟨Trigger.decided_of_target? found, by rw [found]; rfl⟩
  cases shot with
  | waits _ _ _ stacked => cases stacked
  | calls _ _ _ stacked => cases stacked
  | called target _ found => exact called found
  | obeyed target reports found => exact called found
  | cancelled decided absent => exact ⟨decided, by rw [absent]; rfl⟩
  | broken fault cancelled =>
    have absent : made.target? = none := by rw [Trigger.target?, cancelled]
    exact ⟨by rw [cancelled]; rintro ⟨⟩, by rw [absent]; rfl⟩

end Shot

structure Summary (made : Trigger) (done : Doings) : Prop where
  calls : done.calls = [] ∨
    ∃ target, made.target? = some target ∧ done.calls = [(target, made.args)]
  gaveUp : ∀ fault ∈ done.faults, made.decision.outcome = some .cancel ∧ done.calls = [] ∧
    done.reports = [delayReport made fault]
  reports : done.reports = [] ∨ ∃ report, done.reports = [report]

theorem Summary.none (made : Trigger) : Summary made .none :=
  ⟨.inl rfl, fun _ member => absurd member List.not_mem_nil, .inl rfl⟩

theorem doings_of_counts {frame : Frame} {rest : List Frame} {value : Value}
    (active : state.active = some ⟨agent, frame :: rest, .ok value⟩)
    (counts : frame.CountsDown number) :
    state.doings number = ⟨[], (state.delayFault? number).toList,
      ((state.delayFault? number).map (delayReport (state.trigger number))).toList⟩ := by
  cases counts <;> simp [doings, invocation?, delivery?, active]

theorem delayFault?_of_counts {frame : Frame} {rest : List Frame} {value : Value}
    (active : state.active = some ⟨agent, frame :: rest, .ok value⟩)
    (counts : frame.CountsDown number) :
    state.delayFault? number =
      if state.outcome number = none then
        match untilDue state.clock (state.trigger number).due state.setting.home with
        | .error fault => some fault
        | .ok _ => none
      else none := by
  simp only [delayFault?, active, counts.counting?, true_and]

/-- A trigger that waits goes on waiting, makes its call, or gives up. -/
theorem Reply.shot_waits {frame : Frame} {value : Value} {move : Move}
    (reply : Reply state agent (.ok value) frame later move)
    (active : state.active = some ⟨agent, [frame], .ok value⟩) (counts : frame.CountsDown number)
    (within : number < state.triggers.size) :
    Shot number (later.trigger number) (move.frames ++ []) move.signal (state.doings number) := by
  rw [doings_of_counts active counts, delayFault?_of_counts active counts, List.append_nil]
  cases reply.counted counts with
  | waits pause deadline undecided unmoved left =>
    obtain ⟨remaining, left⟩ := left
    rw [if_pos undecided, left]
    exact .waits (.waited number) .null (.waited number) rfl rfl
  | proceeds undecided left =>
    obtain ⟨remaining, -, left⟩ := left
    rw [if_pos undecided, left, trigger_commit_self within undecided]
    exact .calls (state.trigger number).work .null rfl rfl rfl
  | obeys found unmoved =>
    rw [if_neg (target?_decided found), unmoved.trigger]
    exact .calls _ .null found rfl rfl
  | cancelled decided absent unmoved =>
    rw [if_neg decided, unmoved.trigger]
    exact .cancelled decided absent fun _ member => absurd member List.not_mem_nil
  | breaks fault undecided faulty =>
    -- What is complained of changes no trigger, so the one that gave up stays cancelled.
    have same := congrArg (Store.get · number) (complain_triggers
      (state.commit number .cancel none).1 number (state.trigger number).work "waiting for"
      fault.failure)
    have cancelled : ((state.commit number .cancel none).1.complain number
        (state.trigger number).work "waiting for" fault.failure).1.trigger number =
          { state.trigger number with decision := ⟨some .cancel, none⟩ } :=
      same.trans (trigger_commit_self within undecided .cancel none)
    rw [if_pos undecided, faulty, cancelled]
    exact .broken fault rfl fun frame member => (complain_inert _ _ _ _ _ frame member).1

theorem doings_of_dispatched {target : Work} {rest : List Frame} {signal : Signal}
    (active : state.active = some ⟨agent, .dispatched number target :: rest, signal⟩) :
    state.doings number = ⟨[], [], (state.delivery? number).toList⟩ := by
  have silent : state.invocation? number = none := by
    simp [invocation?, active]
  have patient : state.delayFault? number = none := by
    unfold delayFault?
    rw [active]
    split
    · next eq => cases eq; rfl
    · rfl
  rw [doings, silent, patient]
  rfl

/-- A call comes to its end, and a failure of it is reported unless it asks to leave. -/
theorem Reply.shot_dispatched {target : Work} {signal : Signal} {move : Move}
    (reply : Reply state agent signal (.dispatched number target) later move)
    (active : state.active = some ⟨agent, [.dispatched number target], signal⟩)
    (found : (state.trigger number).target? = some target) :
    Shot number (state.trigger number) (move.frames ++ []) move.signal
      (Doings.append ⟨[(target, (state.trigger number).args)], [], []⟩ (state.doings number)) := by
  have nothing : ∀ frame ∈ ([] : List Frame), frame.isBase = false :=
    fun _ member => absurd member List.not_mem_nil
  rw [doings_of_dispatched active, List.append_nil]
  rcases reply.of_dispatched with ⟨value, rfl, -, rfl⟩ | ⟨failure, rfl, ⟨leaves, -, rfl⟩ | ⟨mild, told⟩⟩
  · have silent : state.delivery? number = none := by
      simp [delivery?, delayFault?, active, Frame.counting?]
    rw [silent]
    exact .obeyed target [] found nothing (.inl rfl)
  · have silent : state.delivery? number = none := by
      simp [delivery?, active, leaves]
    rw [silent]
    exact .obeyed target [] found nothing (.inl rfl)
  · have delivered : state.delivery? number =
        some (callReport (state.trigger number) target failure) := by
      simp [delivery?, active, mild]
    have inert := state.complain_inert number target "running" failure
    rw [← told] at inert
    rw [delivered]
    exact .obeyed target _ found (fun frame member => (inert frame member).1) (.inr ⟨failure, rfl⟩)

theorem Sound.shot (sound : Sound state) {frame : Frame} {rest : List Frame} {signal : Signal}
    (active : state.active = some ⟨.thread number, frame :: rest, signal⟩) {done : Doings}
    (shot : Shot number (state.trigger number) (frame :: rest) signal done) :
    Shot number ((state.answer (.thread number) signal frame).1.trigger number)
      ((state.answer (.thread number) signal frame).2.frames ++ rest)
      (state.answer (.thread number) signal frame).2.signal
      (done.append (state.doings number)) := by
  have reply := (sound.replied active).reply
  have within := within_of_isStarted (isStarted_of_running (sound.awake number _ _ active))
  have tries : Tries number state _ _ := sound.answer_tries active
  have lasting := fun decided => (tries.decides.taken decided).1
  have alike := tries.alike within
  generalize (state.answer (.thread number) signal frame).1 = later at reply lasting alike ⊢
  generalize (state.answer (.thread number) signal frame).2 = move at reply ⊢
  -- A step above a base that is not its own is none of its doings.
  have aside : (∀ other ∈ frame :: rest, other.isBase = false) → state.doings number = .none := by
    intro baseless
    refine doings_of_baseless active (Frame.counting?_of_baseless (baseless _ List.mem_cons_self) _)
      (fun target same => ?_) fun work args target below _ same => ?_
    · have based := baseless frame List.mem_cons_self
      rw [same] at based; cases based
    · have based := baseless (.dispatched number target)
        (List.mem_cons_of_mem _ (same ▸ List.mem_cons_self))
      cases based
  have leaves : (∀ other ∈ frame :: rest, other.isBase = false) →
      ∀ other ∈ move.frames ++ rest, other.isBase = false := by
    intro baseless other member
    rcases List.mem_append.mp member with member | member
    · exact (reply.overlay (baseless _ List.mem_cons_self)).baseless other member
    · exact baseless other (List.mem_cons_of_mem _ member)
  cases shot with
  | waits first value counts stacked ok =>
    cases stacked
    cases ok
    exact reply.shot_waits active counts within
  | calls target value found stacked ok =>
    cases stacked
    cases ok
    have called : state.doings number = ⟨[(target, (state.trigger number).args)], [], []⟩ := by
      simp [doings, invocation?, delayFault?, delivery?, active, Frame.counting?]
    rw [called]
    exact Shot.congr (.called target move.frames found rfl (reply.overlay rfl)) alike lasting
  | called target above found stacked overlay =>
    cases above with
    | nil =>
      cases stacked
      exact Shot.congr (reply.shot_dispatched active found) alike lasting
    | cons top above =>
      obtain ⟨rfl, rfl⟩ := List.cons.inj stacked
      have baseless := overlay.baseless frame List.mem_cons_self
      have nothing : state.doings number = .none := by
        refine doings_of_baseless active (Frame.counting?_of_baseless baseless _)
          (fun target same => ?_) fun work args target below call same => ?_
        · rw [same] at baseless; cases baseless
        · cases above with
          | nil =>
            have last := overlay.called frame rfl
            rw [call] at last; cases last
          | cons next above =>
            have based := overlay.baseless next (List.mem_cons_of_mem _ List.mem_cons_self)
            rw [(List.cons.inj same).1] at based; cases based
      rw [nothing, Doings.append_none]
      exact Shot.congr (.called target (move.frames ++ above) found (List.append_assoc _ _ _).symm
        ((reply.overlay baseless).append overlay.tail)) alike lasting
  | obeyed target reports found baseless told =>
    rw [aside baseless, Doings.append_none]
    exact Shot.congr (.obeyed target reports found (leaves baseless) told) alike lasting
  | cancelled decided absent baseless =>
    rw [aside baseless, Doings.append_none]
    exact Shot.congr (.cancelled decided absent (leaves baseless)) alike lasting
  | broken fault cancelled baseless =>
    rw [aside baseless, Doings.append_none]
    exact Shot.congr (.broken fault cancelled (leaves baseless)) alike lasting

end State

end Timetable
