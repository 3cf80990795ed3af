import Timetable.Proofs.Chain.Retained

/-! Threads that are joined.

A thread that has ended stays so. A shutdown waits for the thread of every trigger that it joins, until
the thread has ended or the time for it is over.
-/

set_option autoImplicit false

namespace Timetable

namespace State

/-- The next step gives up on a thread that the main program joins: no time is left for it, or its time
is over. -/
inductive TimesOut (state : State) : Prop where
  | atOnce {trigger stopped : Nat} {micros : Int} {rest : List Nat} {below : List Frame}
      {value : Value} : state.active =
        some ⟨.main, .joining (trigger :: rest) (some micros) stopped :: below, .ok value⟩ →
      micros ≤ 0 → (state.trigger trigger).thread ≠ .ended → TimesOut state
  | waited {trigger : Nat} {deadline : Instant} {stack : List Frame} : state.active = none →
      state.ready = [] → state.main = .waiting stack (.ended trigger) (some deadline) →
      (state.trigger trigger).thread ≠ .ended →
      earliest (some deadline) state.waiting = none → TimesOut state

/-- `Joining stopped timeout state rest`: in a shutdown that has stopped some tasks, the threads of
`rest` are yet to be joined. -/
inductive Joining (stopped : Nat) (timeout : Option Int) (state : State) : List Nat → Prop where
  | joins {rest : List Nat} {value : Value} :
      state.active = some ⟨.main, [.joining rest timeout stopped], .ok value⟩ →
      Joining stopped timeout state rest
  | waits {trigger : Nat} {rest : List Nat} {deadline : Option Instant} :
      (∀ stack signal, state.active ≠ some ⟨.main, stack, signal⟩) →
      state.main = .waiting [.joining rest timeout stopped] (.ended trigger) deadline →
      Joining stopped timeout state (trigger :: rest)
  | returns : state.active = some ⟨.main, [], .ok (.int stopped)⟩ → Joining stopped timeout state []
  | returned : state.active = none → state.main = .finished (.ok (.int stopped)) →
      Joining stopped timeout state []

variable {state next : State} {agent : Agent} {number trigger stopped : Nat}

/-! ### Threads that have ended -/

theorem thread_leave (different : number ≠ trigger) (thread : Thread) :
    ((state.updateTrigger number fun trigger => { trigger with thread }).trigger trigger).thread =
      (state.trigger trigger).thread := by
  rw [trigger_updateTrigger, if_neg fun same => different same.1.symm]

theorem thread_make (other : agent ≠ .thread trigger) (rest : List Frame) (move : Move) :
    ((state.make agent rest move).trigger trigger).thread = (state.trigger trigger).thread := by
  cases move with
  | resume => rfl
  | wait frames pause deadline =>
    cases agent with
    | main => rfl
    | thread own => exact thread_leave (fun same => other (congrArg Agent.thread same)) _

theorem thread_finish (other : agent ≠ .thread trigger) (signal : Signal) :
    ((state.finish agent signal).trigger trigger).thread = (state.trigger trigger).thread := by
  cases agent with
  | main => rfl
  | thread own => exact thread_leave (fun same => other (congrArg Agent.thread same)) _

theorem thread_activate (ended : (state.trigger trigger).thread = .ended) (woken : Nat) :
    ((state.activate woken).trigger trigger).thread = .ended := by
  unfold activate
  split
  · next suspended =>
    refine (thread_leave ?_ _).trans ended
    rintro rfl
    rw [suspended] at ended
    cases ended
  · exact ended

theorem Passed.trigger_eq (passed : Passed state next) (trigger : Nat) :
    next.trigger trigger = state.trigger trigger := by
  cases passed <;> rfl

theorem Sound.ended_step (sound : Sound state) (stepped : state.step = some next)
    (ended : (state.trigger trigger).thread = .ended) :
    (next.trigger trigger).thread = .ended := by
  -- The thread of an active agent is running, so it is not the one that has ended.
  have other : ∀ {agent : Agent} {stack : List Frame} {signal : Signal},
      state.active = some ⟨agent, stack, signal⟩ → agent ≠ .thread trigger := by
    rintro agent stack signal active rfl
    rw [sound.awake trigger _ _ active] at ended
    cases ended
  cases step_stepped stepped with
  | answers agent frame rest signal active same =>
    have kept : ((state.answer agent signal frame).1.trigger trigger).thread = .ended := by
      rcases ((sound.replied active).reply.grows sound.linked).thread trigger with
        same | ⟨unstarted, -⟩
      · exact same.trans ended
      · rw [ended] at unstarted; cases unstarted
    rw [same]
    exact (thread_make (other active) _ _).trans kept
  | finishes agent signal active same =>
    rw [same]
    exact (thread_finish (other active) signal).trans ended
  | activates woken others _ _ same =>
    rw [same]
    exact thread_activate (show ({ state with ready := others }.trigger trigger).thread = .ended
      from ended) woken
  | passes _ _ passed => rw [passed.trigger_eq, ended]

/-! ### The wait of the main program -/

theorem aside_make (state : State) (own : Nat) (rest : List Frame) (move : Move) :
    ∀ stack signal, (state.make (.thread own) rest move).active ≠ some ⟨.main, stack, signal⟩ := by
  cases move <;> rintro _ _ ⟨⟩

theorem main_make (state : State) (own : Nat) (rest : List Frame) (move : Move) :
    (state.make (.thread own) rest move).main = state.main := by
  cases move <;> rfl

theorem holds_ended : state.holds (.ended trigger) = true ↔
    (state.trigger trigger).thread = .ended := by
  simp only [holds]
  split
  · next ended => exact ⟨fun _ => ended, fun _ => rfl⟩
  · next alive => exact ⟨(by rintro ⟨⟩), fun ended => absurd ended alive⟩

/-- While the main program joins a thread, it stays where it is until the thread has ended or the time is
over. -/
theorem Sound.waits_step (sound : Sound state) (stepped : state.step = some next)
    (aside : ∀ stack signal, state.active ≠ some ⟨.main, stack, signal⟩) {stack : List Frame}
    {deadline : Option Instant} (waits : state.main = .waiting stack (.ended trigger) deadline) :
    ((∀ stack signal, next.active ≠ some ⟨.main, stack, signal⟩) ∧ next.main = state.main) ∨
      next.active = some ⟨.main, stack, .ok .null⟩ ∧
        ((state.trigger trigger).thread = .ended ∨ state.TimesOut) := by
  cases step_stepped stepped with
  | answers agent frame rest signal active same =>
    -- The agent is a thread, and nothing that a thread does moves the main program.
    cases agent with
    | main => exact absurd active (aside _ _)
    | thread own =>
      have grows := (sound.replied active).reply.grows sound.linked
      rw [same]
      exact .inl ⟨aside_make _ _ _ _, (main_make _ _ _ _).trans grows.main⟩
  | finishes agent signal active same =>
    cases agent with
    | main => exact absurd active (aside _ _)
    | thread own => exact .inl (same ▸ ⟨(by rintro _ _ ⟨⟩), rfl⟩)
  | activates woken others _ _ same =>
    left
    rw [same, activate]
    split
    · exact ⟨(by rintro _ _ ⟨⟩), rfl⟩
    · exact ⟨aside, rfl⟩
  | passes idle queued passed =>
    -- Nobody can run: the main program is looked after first, then those that sleep.
    cases passed with
    | goesOn _ _ _ main holds =>
      cases waits.symm.trans main
      exact .inr ⟨rfl, .inl (holds_ended.mp holds)⟩
    | wakes => exact .inl ⟨aside, rfl⟩
    | expires _ _ time main lacks late =>
      cases waits.symm.trans main
      have alive : (state.trigger trigger).thread ≠ .ended := by
        rw [ne_eq, ← holds_ended, lacks]
        rintro ⟨⟩
      exact .inr ⟨rfl, .inr (.waited idle queued waits alive late)⟩

/-- The main program joins a thread that was started: it goes on if the thread has ended or there is no
time to wait, and else it waits. -/
theorem join_cases (begun : (state.trigger trigger).begun = true)
    (started : state.isStarted trigger = true) (timeout : Option Int) (frames : List Frame) :
    (state.trigger trigger).thread = .ended ∧
        state.join .main trigger timeout frames = .go frames ∨
      (state.trigger trigger).thread ≠ .ended ∧
        ((∃ micros ≤ 0, timeout = some micros) ∨
          ∃ deadline, state.join .main trigger timeout frames =
            .wait frames (.ended trigger) deadline) := by
  unfold join
  dsimp only
  rw [if_pos begun]
  cases thread : (state.trigger trigger).thread with
  | unstarted => exact absurd thread (isStarted_iff.mp started)
  | ended => exact .inl ⟨rfl, rfl⟩
  | suspended _ | running =>
    refine .inr ⟨(by rintro ⟨⟩), ?_⟩
    dsimp only
    rw [if_neg (by rintro ⟨⟩)]
    cases timeout with
    | none => exact .inr ⟨_, rfl⟩
    | some micros =>
      by_cases none : micros ≤ 0
      · exact .inl ⟨micros, none, rfl⟩
      · exact .inr ⟨_, if_neg none⟩

/-- In a step of a shutdown that gives up on no thread, a thread is done with only if it has ended. -/
theorem Joining.step {timeout : Option Int} {rest : List Nat}
    (joining : Joining stopped timeout state rest) (sound : Sound state)
    (stepped : state.step = some next) (busy : state.mainHasFinished = false)
    (patient : ¬ state.TimesOut)
    (called : ∀ trigger ∈ rest,
      (state.trigger trigger).begun = true ∧ state.isStarted trigger = true) :
    ∃ later, Joining stopped timeout next later ∧ later ⊆ rest ∧
      ∀ trigger ∈ rest, trigger ∈ later ∨ (next.trigger trigger).thread = .ended := by
  cases joining with
  | @joins _ value active =>
    obtain rfl := eq_of_active active stepped
    cases rest with
    | nil => exact ⟨[], .returns rfl, fun _ => id, fun _ member => .inl member⟩
    | cons trigger rest =>
      obtain ⟨begun, started⟩ := called trigger List.mem_cons_self
      have further : ∀ move : Move,
          state.join .main trigger timeout [.joining rest timeout stopped] = move →
          (state.answer .main (.ok value) (.joining (trigger :: rest) timeout stopped)).1.make .main
              [] (state.answer .main (.ok value) (.joining (trigger :: rest) timeout stopped)).2 =
            state.make .main [] move := fun move same => same ▸ rfl
      rcases join_cases begun started timeout [.joining rest timeout stopped] with
        ⟨ended, goes⟩ | ⟨alive, ⟨micros, none, rfl⟩ | ⟨deadline, waits⟩⟩
      · rw [further _ goes]
        refine ⟨rest, .joins rfl, List.subset_cons_self _ _, fun other member => ?_⟩
        rcases List.mem_cons.mp member with rfl | member
        · exact .inr ended
        · exact .inl member
      -- Without time to wait the thread would be given up on.
      · exact absurd (.atOnce active none alive) patient
      · rw [further _ waits]
        exact ⟨trigger :: rest, .waits (by rintro _ _ ⟨⟩) rfl, fun _ => id,
          fun _ member => .inl member⟩
  | @waits trigger rest deadline aside waits =>
    rcases sound.waits_step stepped aside waits with ⟨still, same⟩ | ⟨goes, ended | late⟩
    · exact ⟨trigger :: rest, .waits still (same.trans waits), fun _ => id,
        fun _ member => .inl member⟩
    · refine ⟨rest, .joins goes, List.subset_cons_self _ _, fun other member => ?_⟩
      rcases List.mem_cons.mp member with rfl | member
      · exact .inr (sound.ended_step stepped ended)
      · exact .inl member
    · exact absurd late patient
  | returns active =>
    obtain rfl := eq_of_finished active stepped
    exact ⟨[], .returned rfl rfl, fun _ => id, fun _ member => .inl member⟩
  | returned idle finished =>
    rw [mainHasFinished, idle, finished] at busy
    cases busy

/-! ### Shutdowns -/

def heldTriggers (state : State) : List Nat :=
  state.registered.filterMap fun number => (state.entry number).trigger

theorem Linked.of_mem_heldTriggers (linked : Linked state)
    (member : trigger ∈ state.heldTriggers) :
    ∃ number, state.owner trigger = some number ∧ state.isStarted trigger = true := by
  obtain ⟨number, -, held⟩ := List.mem_filterMap.mp member
  exact ⟨number, (linked.tasks number).held trigger held⟩

theorem joining_of_shutdown {callback : Option Callable} {timeout : Option Int}
    (active : state.active = some ⟨.main, [.perform (.shutdown callback timeout)], .ok .null⟩)
    (stepped : state.step = some next) :
    ∃ stopped, Joining stopped timeout next state.heldTriggers := by
  obtain rfl := eq_of_active active stepped
  rcases callback with _ | (_ | _ | _) <;> exact ⟨_, .joins rfl⟩

end State

/-! ### Traces -/

theorem Trace.armed {first state : State} {later : List State} {trigger number : Nat}
    (trace : Trace first later state) (sound : first.Sound)
    (owned : first.owner trigger = some number) (started : first.isStarted trigger = true) :
    state.owner trigger = some number ∧ state.isStarted trigger = true := by
  induction trace with
  | refl => exact ⟨owned, started⟩
  | issue operation earlier finished ih =>
    have shift := (State.activateMain_turns (State.mainHasFinished_idle finished)
      [.perform operation]).toShift
    exact ⟨(shift.owner _).trans ih.1, (shift.started _).trans ih.2⟩
  | step earlier stepped ih =>
    obtain ⟨owned, started, -⟩ := (earlier.sound sound).armed_step stepped ih.1 ih.2
    exact ⟨owned, started⟩

/-- `Shutdown setting callback timeout past called later state`: a session had come by way of `past` to
`called`, where the main program performs a shutdown, and has come by way of `later` to `state`. The
shutdown has not returned before. -/
inductive Shutdown (setting : Setting) (callback : Option Callable) (timeout : Option Int)
    (past : List State) (called : State) : List State → State → Prop where
  | called : Trace (.initial setting) past called →
      called.active = some ⟨.main, [.perform (.shutdown callback timeout)], .ok .null⟩ →
      Shutdown setting callback timeout past called [] called
  | step {later : List State} {state next : State} :
      Shutdown setting callback timeout past called later state → state.mainHasFinished = false →
      state.step = some next → Shutdown setting callback timeout past called (state :: later) next

namespace Shutdown

variable {setting : Setting} {callback : Option Callable} {timeout : Option Int}
  {past later : List State} {called state : State}

theorem before (shutdown : Shutdown setting callback timeout past called later state) :
    Trace (.initial setting) past called := by
  induction shutdown with
  | called before _ => exact before
  | step _ _ _ ih => exact ih

theorem after (shutdown : Shutdown setting callback timeout past called later state) :
    Trace called later state := by
  induction shutdown with
  | called => exact .refl
  | step _ _ stepped ih => exact ih.step stepped

theorem trace (shutdown : Shutdown setting callback timeout past called later state) :
    Trace (.initial setting) (later ++ past) state :=
  shutdown.before.append shutdown.after

/-- While a shutdown lasts, the main program joins the triggers that the tasks held. -/
theorem joining (shutdown : Shutdown setting callback timeout past called later state) :
    (∀ visited ∈ later, ¬ visited.TimesOut) →
      state.active = some ⟨.main, [.perform (.shutdown callback timeout)], .ok .null⟩ ∧
          state = called ∨
        ∃ stopped rest, State.Joining stopped timeout state rest ∧
          rest ⊆ called.heldTriggers ∧ ∀ trigger ∈ called.heldTriggers,
            trigger ∈ rest ∨ (state.trigger trigger).thread = .ended := by
  induction shutdown with
  | called _ active => exact fun _ => .inl ⟨active, rfl⟩
  | @step later state next earlier busy stepped ih =>
    intro patient
    have sound := earlier.trace.sound (.initial setting)
    right
    rcases ih fun visited member => patient visited (List.mem_cons_of_mem _ member) with
      ⟨active, rfl⟩ | ⟨stopped, rest, joins, within, done⟩
    · obtain ⟨stopped, joins⟩ := State.joining_of_shutdown active stepped
      exact ⟨stopped, _, joins, fun _ => id, fun _ member => .inl member⟩
    · have started : ∀ trigger ∈ rest,
          (state.trigger trigger).begun = true ∧ state.isStarted trigger = true := by
        intro trigger member
        have calledSound := earlier.before.sound (.initial setting)
        obtain ⟨number, owned, started⟩ :=
          calledSound.linked.of_mem_heldTriggers (within member)
        obtain ⟨owned, started⟩ := earlier.after.armed calledSound owned started
        exact ⟨earlier.trace.summoned trigger number owned, started⟩
      obtain ⟨further, joins, fewer, elsewhere⟩ :=
        joins.step sound stepped busy (patient state List.mem_cons_self) started
      refine ⟨stopped, further, joins, fun trigger member => within (fewer member), ?_⟩
      intro trigger member
      rcases done trigger member with pending | ended
      · exact elsewhere trigger pending
      · exact .inr (sound.ended_step stepped ended)

/-- A shutdown none of whose joins has timed out gives the number of the tasks that it has stopped, and
the threads of the triggers that the tasks held have ended. -/
theorem joined (shutdown : Shutdown setting callback timeout past called later state)
    (returned : state.mainHasFinished = true) (patient : ∀ visited ∈ later, ¬ visited.TimesOut) :
    (∃ stopped : Nat, state.main = .finished (.ok (.int stopped))) ∧
      ∀ trigger ∈ called.heldTriggers, (state.trigger trigger).thread = .ended := by
  rcases shutdown.joining patient with ⟨active, -⟩ | ⟨stopped, rest, joins, -, done⟩
  · rw [State.mainHasFinished, active] at returned
    cases returned
  · cases joins with
    | joins active | returns active =>
      rw [State.mainHasFinished, active] at returned
      cases returned
    | waits _ waits =>
      rw [State.mainHasFinished, waits] at returned
      split at returned
      · next same => cases same
      · cases returned
    | returned _ finished =>
      exact ⟨⟨stopped, finished⟩, fun trigger member =>
        (done trigger member).resolve_left List.not_mem_nil⟩

end Shutdown

end Timetable
