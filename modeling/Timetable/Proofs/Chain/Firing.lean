import Timetable.Proofs.Trigger.OneShot

/-! The firings of a task.

A trigger that is decided to proceed calls its task at once: nothing comes between the decision and the
call. For a call stands on top of the stack of the runner that runs, and nowhere else, and nobody but
the trigger itself, while it waits, decides that it proceeds.
-/

set_option autoImplicit false

namespace Timetable

namespace State

variable {state later next : State} {agent : Agent} {trigger number : Nat}

/-! ### Stacks from step to step -/

inductive Restacked (state next : State) (agent : Agent) : Prop where
  /-- The runner does not run. -/
  | kept : (∀ stack signal, state.active ≠ some ⟨agent, stack, signal⟩) →
      next.stackOf agent = state.stackOf agent → Restacked state next agent
  | begun (trigger : Nat) : agent = .thread trigger → state.isStarted trigger = false →
      next.stackOf agent = [.countdown trigger] → Restacked state next agent
  | ended : next.stackOf agent = [] → Restacked state next agent
  | answered {frame : Frame} {rest : List Frame} {signal : Signal} {later : State} {move : Move} :
      Replied state later next agent frame rest signal move → next = later.make agent rest move →
      Restacked state next agent

theorem Sound.restacked (sound : Sound state) (stepped : state.step = some next) (agent : Agent) :
    Restacked state next agent := by
  have resting : ∀ {other : Agent} {stack : List Frame} {signal : Signal}, agent ≠ other →
      state.active = some ⟨other, stack, signal⟩ →
      ∀ stack signal, state.active ≠ some ⟨agent, stack, signal⟩ := by
    intro other stack signal different active _ _ mine
    exact different (Active.mk.inj (Option.some.inj (mine.symm.trans active))).1
  cases step_advance sound.awake stepped with
  | passes other idle turns =>
    refine .kept (fun stack signal mine => ?_) ?_
    · rw [idle] at mine
      cases mine
    · by_cases mine : agent = other
      · rw [mine, turns.stack]
      · exact turns.otherStacks agent mine
  | ends other signal active turns =>
    by_cases mine : agent = other
    · exact .ended (mine ▸ turns.stack)
    · exact .kept (resting mine active) (turns.otherStacks agent mine)
  | answers other frame rest signal active same =>
    have replied := sound.replied active
    rw [← same] at replied
    by_cases mine : agent = other
    · subst mine
      exact .answered replied same
    · have stack := replied.turns.otherStacks agent mine
      rcases (replied.reply.grows sound.linked).stackOf active mine with
        unchanged | ⟨trigger, own, unstarted, begun⟩
      · exact .kept (resting mine active) (stack.trans unchanged)
      · exact .begun trigger own unstarted (stack.trans begun)

/-! ### Calls stand on top -/

structure Upright (state : State) : Prop where
  buried : ∀ agent, ∀ frame ∈ (state.stackOf agent).tail, frame.isCall = false
  top : ∀ agent frame rest, state.stackOf agent = frame :: rest → frame.isCall = true →
    ∃ signal, state.active = some ⟨agent, frame :: rest, signal⟩

theorem Calling.base_isCall {frame base : Frame} {work : Work} {args : List Value}
    (calling : Calling state frame work args base) : base.isCall = false := by
  cases calling <;> rfl

namespace Upright

theorem initial (setting : Setting) : Upright (.initial setting) where
  buried agent frame member := by rw [parked_initial] at member; cases member
  top agent frame rest stacked := by rw [parked_initial] at stacked; cases stacked

theorem rest_isCall (upright : Upright state) {frame : Frame} {rest : List Frame}
    {signal : Signal} (active : state.active = some ⟨agent, frame :: rest, signal⟩) :
    ∀ other ∈ rest, other.isCall = false := by
  intro other member
  apply upright.buried agent other
  rw [stackOf_active active]
  exact member

/-- A call that a frame leaves on top was put there by the frame itself. -/
theorem called (upright : Upright state) {frame top : Frame} {rest above : List Frame}
    {signal : Signal} {move : Move}
    (replied : Replied state later next agent frame rest signal move)
    (stacked : move.frames ++ rest = top :: above) (call : top.isCall = true) :
    ∃ work args base value, signal = .ok value ∧ Calling state frame work args base ∧
      move = .go [.call work args, base] ∧ top = .call work args ∧ above = base :: rest := by
  have quiet := upright.rest_isCall replied.active
  have uncalled : (∀ added ∈ move.frames, added.isCall = false) → False := by
    intro added
    have member : top ∈ move.frames ++ rest := stacked ▸ List.mem_cons_self
    rw [(List.mem_append.mp member).elim (added top) (quiet top)] at call
    cases call
  cases replied.reply.puts with
  | inert added => exact (uncalled fun other member => (added other member).2).elim
  | calls work args base calling =>
    obtain ⟨rfl, rfl⟩ := List.cons.inj stacked
    exact ⟨work, args, base, _, rfl, calling, rfl, rfl, rfl⟩
  | waits =>
    exact (uncalled fun other member => by rw [List.mem_singleton.mp member]; rfl).elim

theorem step (upright : Upright state) (sound : Sound state) (stepped : state.step = some next) :
    Upright next where
  buried agent frame member := by
    cases sound.restacked stepped agent with
    | kept resting same =>
      rw [same] at member
      exact upright.buried agent frame member
    | begun trigger own unstarted stack => rw [stack] at member; cases member
    | ended stack => rw [stack] at member; cases member
    | answered replied same =>
      have quiet := upright.rest_isCall replied.active
      rw [replied.turns.stack] at member
      cases replied.reply.puts with
      | inert added =>
        exact (List.mem_append.mp (List.mem_of_mem_tail member)).elim
          (fun member => (added frame member).2) (quiet frame)
      | calls work args base calling =>
        -- The call itself is on top; under it come its base and what lay there before.
        rcases List.mem_cons.mp member with rfl | member
        · exact calling.base_isCall
        · exact quiet frame member
      | waits => exact quiet frame member
  top agent frame rest stacked call := by
    cases sound.restacked stepped agent with
    | kept resting same =>
      obtain ⟨signal, active⟩ := upright.top agent frame rest (same ▸ stacked) call
      exact absurd active (resting _ _)
    | begun trigger own unstarted stack =>
      rw [stack] at stacked
      cases stacked
      cases call
    | ended stack => rw [stack] at stacked; cases stacked
    | answered replied same =>
      rw [replied.turns.stack] at stacked
      obtain ⟨work, args, base, value, -, -, rfl, rfl, rfl⟩ := upright.called replied stacked call
      exact ⟨.ok .null, same ▸ rfl⟩

theorem issue (upright : Upright state) (finished : state.mainHasFinished = true)
    (operation : Operation) : Upright (state.issue operation) := by
  have idle := mainHasFinished_idle finished
  have turns : Turns state (state.issue operation) .main [.perform operation] (.ok .null) :=
    activateMain_turns idle _
  refine ⟨fun agent frame member => ?_, fun agent frame rest stacked call => ?_⟩
  · by_cases main : agent = .main
    · rw [main, turns.stack] at member
      cases member
    · rw [turns.otherStacks agent main] at member
      exact upright.buried agent frame member
  · by_cases main : agent = .main
    · rw [main, turns.stack] at stacked
      cases stacked
      cases call
    · rw [turns.otherStacks agent main] at stacked
      obtain ⟨signal, active⟩ := upright.top agent frame rest stacked call
      rw [idle] at active
      cases active

/-- A call was put where it stands by the frame that answered last. -/
theorem calling (upright : Upright state) (sound : Sound state) (stepped : state.step = some next)
    {work : Work} {args : List Value} {below : List Frame} {signal : Signal}
    (active : next.active = some ⟨agent, .call work args :: below, signal⟩) :
    ∃ frame base rest value, state.active = some ⟨agent, frame :: rest, .ok value⟩ ∧
      Calling state frame work args base ∧ below = base :: rest := by
  have stacked := stackOf_active active
  cases sound.restacked stepped agent with
  | kept resting same =>
    obtain ⟨signal, active⟩ := upright.top agent _ _ (same.symm.trans stacked) rfl
    exact absurd active (resting _ _)
  | begun trigger own unstarted stack => rw [stack] at stacked; cases stacked
  | ended stack => rw [stack] at stacked; cases stacked
  | @answered frame rest _ _ _ replied same =>
    rw [replied.turns.stack] at stacked
    obtain ⟨_, _, base, value, rfl, calling, -, same, rfl⟩ :=
      upright.called replied stacked rfl
    cases same
    exact ⟨frame, base, rest, value, replied.active, calling, rfl⟩

end Upright

/-! ### Triggers that proceed wait no longer -/

/-- A trigger that was decided to proceed does not wait. -/
def Candid (state : State) (trigger : Nat) : Prop :=
  state.outcome trigger = some .proceed → state.isStarted trigger = true ∧
    ∀ frame ∈ state.stackOf (.thread trigger), ¬ frame.CountsDown trigger

/-- It is in a frame in which it waits that a trigger is committed to proceed. -/
theorem counting_of_attempts {tried : Commitment} (member : tried ∈ state.attempts trigger)
    (proceeds : tried.outcome = .proceed) : ∃ agent frame rest value,
      state.active = some ⟨agent, frame :: rest, .ok value⟩ ∧ frame.CountsDown trigger := by
  unfold attempts at member
  split at member
  · next agent frame rest signal active =>
    cases signal with
    | error failure => cases frame <;> cases member
    | ok value =>
      cases frame with
      | perform operation =>
        rcases operationAttempts_own member with cancels | ⟨redirects, -⟩
        · rw [proceeds] at cancels; cases cancels
        · rw [proceeds] at redirects; cases redirects
      | countdown counting =>
        simp only [frameAttempts] at member
        split at member
        · next mine => exact ⟨agent, _, rest, value, active, mine ▸ .countdown counting⟩
        · cases member
      | waited counting =>
        simp only [frameAttempts] at member
        split at member
        · next mine => exact ⟨agent, _, rest, value, active, mine.1 ▸ .waited counting⟩
        · cases member
      | _ => cases member
  · cases member

theorem Sound.proceeding (sound : Sound state) (stepped : state.step = some next)
    (proceeds : next.outcome trigger = some .proceed) :
    state.outcome trigger = some .proceed ∨ ∃ frame rest value,
      state.active = some ⟨.thread trigger, frame :: rest, .ok value⟩ ∧
        frame.CountsDown trigger := by
  have tries : Tries trigger state (state.attempts trigger) next := sound.tries stepped
  by_cases undecided : state.outcome trigger = none
  · rcases tries.decides.undecided undecided with
      ⟨-, same⟩ | ⟨counted, others, tried, -, -, set⟩
    · rw [outcome, same] at proceeds
      exact .inl proceeds
    · rw [outcome, set] at proceeds
      obtain ⟨agent, frame, rest, value, active, counts⟩ :=
        counting_of_attempts (tried ▸ List.mem_cons_self) (Option.some.inj proceeds)
      obtain rfl := CountsDown.agent_eq counts (sound.fits_active active frame List.mem_cons_self)
      exact .inr ⟨frame, rest, value, active, counts⟩
  · rw [outcome, (tries.decides.taken undecided).1] at proceeds
    exact .inl proceeds

theorem Shot.alone {made : Trigger} {frame : Frame} {rest : List Frame} {signal : Signal}
    {done : Doings} (shot : Shot trigger made (frame :: rest) signal done)
    (counts : frame.CountsDown trigger) : rest = [] := by
  have baseless : frame.isBase ≠ false := by cases counts <;> rintro ⟨⟩
  cases shot with
  | waits _ _ _ stacked => cases stacked; rfl
  | calls _ _ _ stacked => cases stacked; cases counts
  | called target above _ stacked overlay =>
    cases above with
    | nil => cases stacked; cases counts
    | cons top above =>
      obtain ⟨rfl, -⟩ := List.cons.inj stacked
      exact absurd (overlay.baseless _ List.mem_cons_self) baseless
  | obeyed _ _ _ quiet => exact absurd (quiet _ List.mem_cons_self) baseless
  | cancelled _ _ quiet => exact absurd (quiet _ List.mem_cons_self) baseless
  | broken _ _ quiet => exact absurd (quiet _ List.mem_cons_self) baseless

/-- A frame that goes on counting a trigger down finds it undecided. -/
theorem Puts.counting {frame added : Frame} {signal : Signal} {move : Move}
    (puts : Puts state later frame signal move) (member : added ∈ move.frames)
    (counts : added.CountsDown trigger) : later.outcome trigger = none := by
  cases puts with
  | inert inert =>
    have baseless := (inert added member).1
    cases counts <;> cases baseless
  | calls work args base calling =>
    rcases List.mem_cons.mp member with rfl | member
    · cases counts
    · rw [List.mem_singleton.mp member] at counts
      cases calling <;> cases counts
  | waits pause deadline waiting undecided unmoved =>
    rw [List.mem_singleton.mp member] at counts
    cases counts
    exact (unmoved.outcome _).trans undecided

theorem Candid.step (candid : Candid state trigger) (sound : Sound state) {done : Doings}
    (accounted : Accounted state trigger done) (stepped : state.step = some next) :
    Candid next trigger := by
  intro proceeds
  have before := sound.proceeding stepped proceeds
  have started : state.isStarted trigger = true := by
    rcases before with proceeded | ⟨frame, rest, value, active, -⟩
    · exact (candid proceeded).1
    · exact isStarted_of_running (sound.awake trigger _ _ active)
  -- A thread that does not run counts down no more than before, and another one decided nothing.
  have resting : (∀ stack signal, state.active ≠ some ⟨.thread trigger, stack, signal⟩) →
      ∀ frame ∈ state.stackOf (.thread trigger), ¬ frame.CountsDown trigger := by
    intro resting
    rcases before with proceeded | ⟨frame, rest, value, active, -⟩
    · exact (candid proceeded).2
    · exact absurd active (resting _ _)
  refine ⟨?started, fun frame member counts => ?waiting⟩
  case started =>
    cases step_advance sound.awake stepped with
    | passes agent idle turns => rw [turns.started, started]
    | ends agent signal active turns => rw [turns.started, started]
    | answers agent frame rest signal active same =>
      have replied := sound.replied active
      rw [same, replied.turns.started]
      exact (replied.reply.grows sound.linked).isStarted started
  case waiting =>
    cases sound.restacked stepped (.thread trigger) with
    | kept aside same => exact resting aside frame (same ▸ member) counts
    | begun begun own unstarted stack =>
      cases own
      rw [started] at unstarted
      cases unstarted
    | ended stack => rw [stack] at member; cases member
    | @answered top rest signal later move replied same =>
      rw [replied.turns.stack] at member
      rcases List.mem_append.mp member with member | member
      · have undecided := replied.reply.puts.counting member counts
        rw [replied.turns.toShift.outcome, undecided] at proceeds
        cases proceeds
      · rcases before with proceeded | ⟨waiting, below, value, active, waits⟩
        · refine (candid proceeded).2 frame ?_ counts
          rw [stackOf_active replied.active]
          exact List.mem_cons_of_mem _ member
        · have shot := accounted.shot started
          rw [stackOf_active active] at shot
          have running := Option.some.inj (active.symm.trans replied.active)
          rw [← (List.cons.inj (Active.mk.inj running).2.1).2, shot.alone waits] at member
          cases member

theorem Candid.issue (candid : Candid state trigger) (finished : state.mainHasFinished = true)
    (operation : Operation) : Candid (state.issue operation) trigger := by
  have turns : Turns state (state.issue operation) .main [.perform operation] (.ok .null) :=
    activateMain_turns (mainHasFinished_idle finished) _
  intro proceeds
  rw [turns.outcome] at proceeds
  rw [turns.started, turns.otherStacks _ (by rintro ⟨⟩)]
  exact candid proceeds

/-! ### Firings -/

def firing? (state : State) (number : Nat) : Option Nat :=
  match state.active with
  | some ⟨_, .call _ _ :: .fired task trigger _ _ _ :: _, .ok _⟩ =>
    if task = number then some trigger else none
  | _ => none

def firings (number : Nat) (past : List State) : List Nat :=
  past.reverse.filterMap fun state => state.firing? number

theorem firings_cons (number : Nat) (past : List State) (state : State) :
    firings number (state :: past) = firings number past ++ (state.firing? number).toList := by
  simp only [firings, List.reverse_cons, List.filterMap_append]
  cases same : state.firing? number <;> simp [same]

theorem mem_firings {past : List State} :
    trigger ∈ firings number past ↔ ∃ visited ∈ past, visited.firing? number = some trigger := by
  simp [firings]

theorem of_firing? (firing : state.firing? number = some trigger) :
    ∃ agent work args given mode called rest value, state.active =
      some ⟨agent, .call work args :: .fired number trigger given mode called :: rest, .ok value⟩ := by
  unfold firing? at firing
  split at firing
  · next active =>
    split at firing
    · next mine =>
      cases firing
      exact ⟨_, _, _, _, _, _, _, _, mine ▸ active⟩
    · cases firing
  · cases firing

theorem firing?_eq_none {stack : List Frame} {signal : Signal}
    (active : state.active = some ⟨agent, stack, signal⟩)
    (other : ∀ work args task trigger given mode called rest,
      stack ≠ .call work args :: .fired task trigger given mode called :: rest) :
    state.firing? number = none := by
  unfold firing?
  rw [active]
  split
  · next same => cases same; exact absurd rfl (other _ _ _ _ _ _ _ _)
  · rfl

theorem Sound.firing (sound : Sound state) (firing : state.firing? number = some trigger) :
    state.owner trigger = some number ∧ state.outcome trigger = some .proceed ∧
      state.isStarted trigger = true := by
  obtain ⟨agent, work, args, given, mode, called, rest, value, active⟩ := of_firing? firing
  obtain ⟨rfl, owned, proceeds, -⟩ := sound.fits_active active
    (.fired number trigger given mode called) (List.mem_cons_of_mem _ List.mem_cons_self)
  exact ⟨owned, proceeds, isStarted_of_running (sound.awake trigger _ _ active)⟩

/-- Nobody but a trigger of a task that waits undecided, or proceeds, calls the task. -/
theorem Linked.calling_fire (linked : Linked state) {frame base : Frame} {args : List Value}
    (fits : Fits state agent frame)
    (calling : Calling state frame (.fire number trigger) args base) :
    ∃ target, base = .dispatched trigger target ∧ frame.CountsDown trigger ∧
      state.owner trigger = some number ∧
      (state.outcome trigger = none ∨ state.outcome trigger = some .proceed) := by
  generalize fired : Work.fire number trigger = work at calling
  have given : Work.isCallback (.fire number trigger) = false := rfl
  rw [fired] at given
  cases calling with
  | @proceeds frame counting counts undecided =>
    cases owned : state.owner counting with
    | none =>
      rw [Work.isCallback_of_isGiven (linked.tidy.free counting owned).1] at given
      cases given
    | some task =>
      have work := linked.work counting task owned
      rw [← fired] at work
      cases work
      exact ⟨_, rfl, counts, owned, .inl undecided⟩
  | @obeys frame counting target counts called =>
    cases owned : state.owner counting with
    | none =>
      rw [linked.target?_free called owned] at given
      cases given
    | some task =>
      rcases linked.target?_owned called owned with ⟨proceeds, same⟩ | ⟨-, same⟩
      · rw [← fired] at same
        cases same
        exact ⟨_, rfl, counts, owned, .inr proceeds⟩
      · rw [← fired] at same
        cases same
  | fires task other =>
    rw [Work.isCallback_of_isGiven (linked.tidy.works task)] at given
    cases given
  | callsBack => rw [fits.1] at given; cases given

end State

namespace Trace

variable {setting : Setting} {past : List State} {state : State} {agent : Agent}
  {number trigger : Nat}

theorem upright (trace : Trace (.initial setting) past state) : state.Upright := by
  induction trace with
  | refl => exact .initial setting
  | issue operation earlier finished ih => exact ih.issue finished operation
  | step earlier stepped ih => exact ih.step (earlier.sound (.initial setting)) stepped

theorem candid (trace : Trace (.initial setting) past state) (trigger : Nat) :
    state.Candid trigger := by
  induction trace with
  | refl => rintro ⟨⟩
  | issue operation earlier finished ih => exact ih.issue finished operation
  | step earlier stepped ih =>
    exact ih.step (earlier.sound (.initial setting)) (earlier.accounted trigger) stepped

theorem calling (trace : Trace (.initial setting) past state) {work : Work} {args : List Value}
    {below : List Frame} {signal : Signal}
    (active : state.active = some ⟨agent, .call work args :: below, signal⟩) :
    ∃ prior earlier, past = prior :: earlier ∧ Trace (.initial setting) earlier prior ∧
      ∃ frame base rest value, prior.active = some ⟨agent, frame :: rest, .ok value⟩ ∧
        prior.Calling frame work args base ∧ below = base :: rest := by
  cases trace with
  | refl => cases active
  | issue operation earlier finished => cases active
  | step earlier stepped =>
    exact ⟨_, _, rfl, earlier,
      earlier.upright.calling (earlier.sound (.initial setting)) stepped active⟩

/-- A trigger that calls the function of its task was undecided two steps before: it has proceeded,
and then called the task. -/
theorem undecided_before (trace : Trace (.initial setting) past state)
    (firing : state.firing? number = some trigger) : ∃ called waiting earlier,
      past = called :: waiting :: earlier ∧ Trace (.initial setting) earlier waiting ∧
      called.firing? number = none ∧ waiting.firing? number = none ∧
      waiting.owner trigger = some number ∧ waiting.isStarted trigger = true ∧
      waiting.outcome trigger = none := by
  obtain ⟨agent, work, args, given, mode, fn, rest, value, active⟩ := State.of_firing? firing
  obtain ⟨called, before, rfl, reached, frame, base, below, value, running, calling, same⟩ :=
    trace.calling active
  obtain ⟨rfl, rfl⟩ := List.cons.inj same
  cases calling
  obtain ⟨waiting, earlier, rfl, sooner, frame, base, below, value, waited, calling, same⟩ :=
    reached.calling running
  -- The function was called by the call of the task, and that one by a frame in which a trigger waited.
  have sound := sooner.sound (.initial setting)
  have fits := sound.fits_active waited frame List.mem_cons_self
  obtain ⟨target, rfl, counts, owned, decided⟩ := sound.linked.calling_fire fits calling
  obtain rfl := State.CountsDown.agent_eq counts fits
  refine ⟨called, waiting, earlier, rfl, sooner, ?_, ?_, owned,
    State.isStarted_of_running (sound.awake trigger _ _ waited), ?_⟩
  · refine State.firing?_eq_none running ?_
    rintro _ _ _ _ _ _ _ _ other
    rw [same] at other
    cases other
  · refine State.firing?_eq_none waited ?_
    rintro _ _ _ _ _ _ _ _ other
    cases other
    cases counts
  · refine decided.resolve_right fun proceeds => ?_
    refine (sooner.candid trigger proceeds).2 frame ?_ counts
    rw [State.stackOf_active waited]
    exact List.mem_cons_self

end Trace

end Timetable
