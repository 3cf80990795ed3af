import Timetable.Proofs.Chain.Firing
import Timetable.Proofs.Chain.Stage

/-! Stops settle once.

Every stop that is accepted is settled by the thread of the trigger that it was issued against, and by no
other: its callback is called once, with the arguments that the next run would have had. That holds
unless a start strands a task whose stop has yet to settle.
-/

set_option autoImplicit false

namespace Timetable

/-- At every stage a stop has been issued at most once, and it is settled at most once. -/
theorem Stage.ledger {number trigger : Nat} {args : List Value} {before : Standing}
    {ledger : Ledger} (stage : Stage number trigger args before ledger) :
    ledger.stops = [] ∧ ledger.settlements = [] ∨ ∃ callback,
      ledger.stops = [(number, callback)] ∧ (ledger.settlements = [] ∨
        ledger.settlements = [(number, callback, ledger.nextArgs args)]) := by
  have opened : ∀ {pending : Option Work}, ledger.IsOpen number pending →
      ledger.stops = [] ∧ ledger.settlements = [] ∨ ∃ callback,
        ledger.stops = [(number, callback)] ∧ (ledger.settlements = [] ∨
          ledger.settlements = [(number, callback, ledger.nextArgs args)]) := by
    intro pending opened
    cases pending with
    | none => exact .inl ⟨opened.stops, opened.settlements⟩
    | some callback => exact .inr ⟨callback, opened.stops, .inl opened.settlements⟩
  cases stage with
  | waits _ _ _ _ _ _ opens => exact opened opens
  | calls _ _ _ _ _ opens => exact opened opens
  | runs _ _ _ _ _ opens => exact opened opens
  | fails _ _ _ either =>
    rcases either with opens | ⟨-, unstopped, unsettled⟩
    · exact opened opens
    · exact .inl ⟨unstopped, unsettled⟩
  | settles _ _ callback _ _ _ _ _ stops unsettled => exact .inr ⟨callback, stops, .inl unsettled⟩
  | finished _ _ _ closed =>
    rcases closed with none | ⟨callback, stops, settled⟩
    · exact .inl none
    · exact .inr ⟨callback, stops, .inr settled⟩

theorem Stage.closed {number trigger : Nat} {args : List Value} {before : Standing}
    {ledger : Ledger} (stage : Stage number trigger args before ledger)
    (empty : before.stack = []) : before.pending = none ∧ before.held ≠ some trigger ∧
      ledger.IsClosed number args := by
  cases stage with
  | finished _ pending held closed => exact ⟨pending, held, closed⟩
  | waits _ _ _ stacked => rw [empty] at stacked; cases stacked
  | calls _ _ _ stacked => rw [empty] at stacked; cases stacked
  | runs above _ _ _ stacked => rw [empty] at stacked; cases above <;> cases stacked
  | fails _ stacked => rw [empty] at stacked; cases stacked
  | settles above _ _ stacked => rw [empty] at stacked; cases above <;> cases stacked

theorem Stage.ended {number trigger : Nat} {args : List Value} {before : Standing}
    {ledger : Ledger} (stage : Stage number trigger args before ledger) (empty : before.stack = [])
    {signal : Signal} :
    Stage number trigger args { before with stack := [], signal := signal } ledger := by
  obtain ⟨pending, held, closed⟩ := stage.closed empty
  exact .finished (fun _ member => absurd member List.not_mem_nil) pending held closed

def Deed.settlement? : Deed → Option (Agent × Nat × Work × List Value)
  | .settled agent task callback args => some (agent, task, callback, args)
  | _ => none

namespace Ledger

variable {number trigger : Nat} {history : List Deed}

theorem mem_stops {callback : Work} : (number, callback) ∈ (of trigger history).stops ↔
    .stopped number trigger callback ∈ history := by
  refine ⟨fun member => ?_, fun stopped => List.mem_filterMap.mpr ⟨_, stopped, if_pos rfl⟩⟩
  obtain ⟨deed, done, same⟩ := List.mem_filterMap.mp member
  unfold Deed.stopOf at same
  split at same
  · split at same
    · next mine => cases same; rw [← mine]; exact done
    · cases same
  · cases same

theorem mem_settlements {callback : Work} {args : List Value} :
    (number, callback, args) ∈ (of trigger history).settlements ↔
      .settled (.thread trigger) number callback args ∈ history := by
  refine ⟨fun member => ?_, fun settled => List.mem_filterMap.mpr ⟨_, settled, if_pos rfl⟩⟩
  obtain ⟨deed, done, same⟩ := List.mem_filterMap.mp member
  unfold Deed.settlementBy at same
  split at same
  · split at same
    · next mine => cases same; rw [← mine]; exact done
    · cases same
  · cases same

theorem ran_of_mem_runs {mode : Mode} {outcome : Signal}
    (member : (mode, outcome) ∈ (of trigger history).runs) :
    ∃ number, .ran number trigger mode outcome ∈ history := by
  obtain ⟨deed, done, same⟩ := List.mem_filterMap.mp member
  unfold Deed.runOf at same
  split at same
  · split at same
    · next number _ _ _ mine => cases same; rw [← mine]; exact ⟨number, done⟩
    · cases same
  · cases same

end Ledger

namespace State

/-- The deeds along a trace, those of the latest state first. -/
def history (past : List State) : List Deed :=
  past.flatMap State.deeds

/-- In the threads of the triggers of tasks, nothing asks to leave. -/
def IsCivil (state : State) : Prop :=
  ∀ trigger stack failure, state.active = some ⟨.thread trigger, stack, .error failure⟩ →
    state.owner trigger ≠ none → failure.leaves = false

structure Accounts (state : State) (history : List Deed) : Prop where
  stage : ∀ trigger number, state.owner trigger = some number → state.isStarted trigger = true →
    Stage number trigger (state.trigger trigger).args (state.standing number trigger)
      (.of trigger history)
  fresh : ∀ trigger, (∀ number, state.owner trigger = some number →
    state.isStarted trigger = false) → Ledger.of trigger history = .empty
  undecided : ∀ trigger number, state.owner trigger = some number →
    state.isStarted trigger = false → state.outcome trigger = none

variable {number trigger : Nat} {state later next : State} {agent : Agent} {deeds : List Deed}
  {past : List Deed}

/-- Stops are issued against triggers that tasks hold while they run, and make them idle. -/
theorem Effect.stoppable (effect : Effect state deeds later) : Linked state →
    (∀ task, .started task ∉ deeds) →
    (∀ number trigger callback, .stopped number trigger callback ∈ deeds →
        state.stoppable? number = some trigger) ∧
      ∀ number trigger, later.stoppable? number = some trigger →
        state.stoppable? number = some trigger := by
  induction effect with
  | neutral neutral =>
    refine fun _ _ => ⟨fun _ _ _ member => absurd member List.not_mem_nil, fun _ _ found => ?_⟩
    rwa [neutral.stoppable?] at found
  | start => exact fun _ none => absurd List.mem_cons_self (none _)
  | @stop state task held callback running holds called =>
    intro linked _
    have owned := ((linked.tasks task).held held holds).1
    have inside := stopChain_local running holds owned callback
    have stopped := entry_stopChain running holds (linked.range held task owned) callback
    refine ⟨fun number trigger callback member => ?_, fun number trigger found => ?_⟩
    · obtain ⟨rfl, rfl, -⟩ := Deed.stopped.inj (List.mem_singleton.mp member)
      exact stoppable?_iff.mpr ⟨isRunning_iff.mpr running, holds⟩
    · by_cases same : number = task
      · subst same
        rw [stoppable?, stopped] at found
        cases found
      · rwa [stoppable?_congr (inside.others number same)] at found
  | trans earlier after first second =>
    intro linked none
    obtain ⟨issued, kept⟩ := first linked fun task member => none task (List.mem_append_left _ member)
    obtain ⟨issuedToo, keptToo⟩ := second (linked.effect earlier)
      fun task member => none task (List.mem_append_right _ member)
    refine ⟨fun number trigger callback member => ?_, fun number trigger found =>
      kept _ _ (keptToo _ _ found)⟩
    rcases List.mem_append.mp member with member | member
    · exact issued _ _ _ member
    · exact kept _ _ (issuedToo _ _ _ member)

/-- Nothing is done to a trigger that is not one of a task, or whose thread was not started. -/
theorem Replied.unconcerned (sound : Sound state) {frame : Frame} {rest : List Frame}
    {signal : Signal} (active : state.active = some ⟨agent, frame :: rest, signal⟩)
    (fresh : ∀ number, state.owner trigger = some number → state.isStarted trigger = false) :
    Ledger.of trigger (state.frameDeeds agent signal frame) = .empty := by
  have replied := sound.replied active
  have fits := replied.fits sound
  by_cases common : frame.isCommon = true
  · obtain ⟨-, effect⟩ := replied.reply.of_isCommon common
    by_cases started : ∃ task, .started task ∈ state.frameDeeds agent signal frame
    · obtain ⟨task, member⟩ := started
      rw [(starts_of_deeds member).deeds]; rfl
    · have issued := (effect.stoppable sound.linked fun task member => started ⟨task, member⟩).1
      rw [effect.ledger_of, List.filterMap_eq_nil_iff.mpr]
      · rfl
      intro deed member
      cases deed with
      | stopped task other callback =>
        rw [Deed.stopOf, if_neg]
        rintro rfl
        obtain ⟨-, held⟩ := stoppable?_some (issued _ _ _ member)
        obtain ⟨owned, begun⟩ := (sound.linked.tasks task).held other held
        rw [fresh task owned] at begun
        cases begun
      | _ => rfl
  · have uncommon : frame.isCommon = false := by simpa using common
    by_cases own : agent = .thread trigger
    · subst own
      have begun := isStarted_of_running (sound.awake trigger _ _ active)
      have free : ∀ number, state.owner trigger ≠ some number := by
        intro number owned
        rw [fresh number owned] at begun
        cases begun
      rw [frameDeeds_eq_nil uncommon]
      · rfl
      · rintro task other args mode work rfl
        obtain ⟨same, owned, -⟩ := fits
        obtain rfl := Agent.thread.inj same
        exact free task owned
      · rintro task work args rfl
        obtain ⟨-, other, same, owned⟩ := fits
        obtain rfl := Agent.thread.inj same
        exact free task owned
    · exact ledger_frameDeeds _ fits uncommon own

/-- A trigger that was armed and started in this step: its thread waits, and nothing else has been done
to it. -/
theorem Replied.born (sound : Sound state) {frame : Frame} {rest : List Frame} {signal : Signal}
    (active : state.active = some ⟨agent, frame :: rest, signal⟩)
    (fresh : ∀ number, state.owner trigger = some number → state.isStarted trigger = false)
    (owned : (state.answer agent signal frame).1.owner trigger = some number) :
    agent ≠ .thread trigger ∧ state.isStarted trigger = false ∧
      ((state.answer agent signal frame).1.entry number).stopCallback? trigger =
        (state.entry number).stopCallback? trigger ∧
      (state.answer agent signal frame).1.outcome trigger = state.outcome trigger ∧
      ((state.answer agent signal frame).1.isStarted trigger = true →
        (state.answer agent signal frame).1.stackOf (.thread trigger) = [.countdown trigger] ∧
          (state.answer agent signal frame).1.signalOf (.thread trigger) = .ok .null) := by
  have replied := sound.replied active
  have grows := replied.reply.grows sound.linked
  have keeps := Keeps.reply (replied.fits sound) replied.reply
  have unconcerned := Replied.unconcerned sound active fresh
  have unstarted : state.isStarted trigger = false := by
    by_cases within : trigger < state.triggers.size
    · exact fresh number ((keeps.owner trigger within).symm.trans owned)
    · rw [isStarted, state.trigger_of_le (Nat.le_of_not_lt within)]; rfl
  have other : agent ≠ .thread trigger := by
    rintro rfl
    rw [isStarted_of_running (sound.awake trigger _ _ active)] at unstarted
    cases unstarted
  obtain ⟨pending, same⟩ := keeps.unstopped other (by rw [owned]; rintro ⟨⟩)
    (congrArg Ledger.stops unconcerned)
  refine ⟨other, unstarted, pending number, same, fun started => ⟨?_, ?_⟩⟩
  · rw [stackOf_other (grows.active.trans active) other.symm]
    rcases grows.thread trigger with thread | ⟨-, thread⟩
    · rw [isStarted, thread] at started
      rw [isStarted, started] at unstarted
      cases unstarted
    · simp only [parked, thread, Thread.stack]
  · exact signalOf_other (grows.active.trans active) other.symm

namespace Accounts

theorem initial (setting : Setting) : Accounts (.initial setting) [] where
  stage _ _ owned := by cases owned
  fresh _ _ := rfl
  undecided _ _ owned := by cases owned

theorem of_shift (accounts : Accounts state past) (shift : Shift state later)
    (standing : ∀ number trigger, state.owner trigger = some number →
      ∀ args ledger, Stage number trigger args (state.standing number trigger) ledger →
      Stage number trigger args (later.standing number trigger) ledger) : Accounts later past where
  stage trigger number owned started := by
    rw [shift.owner] at owned
    rw [shift.started] at started
    rw [shift.args]
    exact standing _ _ owned _ _ (accounts.stage trigger number owned started)
  fresh trigger none := accounts.fresh trigger fun number owned => by
    rw [← shift.started]
    exact none number ((shift.owner trigger).trans owned)
  undecided trigger number owned started := by
    rw [shift.owner] at owned
    rw [shift.started] at started
    rw [shift.outcome]
    exact accounts.undecided trigger number owned started

/-- The thread of a trigger that was armed and started in this step. -/
theorem born (accounts : Accounts state past) (sound : Sound state) {frame : Frame}
    {rest : List Frame} {signal : Signal}
    (active : state.active = some ⟨agent, frame :: rest, signal⟩)
    (fresh : ∀ number, state.owner trigger = some number → state.isStarted trigger = false)
    (owned : (state.answer agent signal frame).1.owner trigger = some number) :
    agent ≠ .thread trigger ∧
      (state.answer agent signal frame).1.outcome trigger = none ∧
      ((state.answer agent signal frame).1.isStarted trigger = true →
        Stage number trigger ((state.answer agent signal frame).1.trigger trigger).args
          ((state.answer agent signal frame).1.standing number trigger) .empty) := by
  obtain ⟨other, unstarted, pending, same, stacked⟩ := Replied.born sound active fresh owned
  have undecided : state.outcome trigger = none := by
    by_cases within : trigger < state.triggers.size
    · have keeps := Keeps.reply ((sound.replied active).fits sound) (sound.replied active).reply
      exact accounts.undecided trigger number ((keeps.owner trigger within).symm.trans owned)
        unstarted
    · exact state.outcome_of_le (Nat.le_of_not_lt within)
  refine ⟨other, same.trans undecided, fun started => ?_⟩
  have free : (state.entry number).stopCallback? trigger = none := by
    cases found : (state.entry number).stopCallback? trigger with
    | none => rfl
    | some callback =>
      have begun := ((sound.linked.tasks number).stops _ (mem_of_lookup found)).2.1
      rw [unstarted] at begun
      cases begun
  obtain ⟨stack, signal⟩ := stacked started
  refine .waits (.countdown trigger) .null (.countdown trigger) stack signal
    (.inl (same.trans undecided)) ⟨?_, rfl, rfl⟩
  show [] = Option.toList (((Entry.stopCallback? _ trigger)).map _)
  rw [pending, free]
  rfl

theorem step (accounts : Accounts state past) (sound : Sound state) (single : Single state)
    (civil : state.IsCivil) (stepped : state.step = some next) :
    Accounts next (state.deeds ++ past) := by
  cases step_advance sound.awake stepped with
  | passes agent idle turns =>
    have none : state.deeds = [] := by rw [State.deeds, idle]
    rw [none]
    apply accounts.of_shift turns.toShift
    intro number trigger owned args ledger stage
    rwa [turns.standing_idle idle]
  | ends agent signal active turns =>
    have none : state.deeds = [] := by rw [State.deeds, active]
    rw [none]
    apply accounts.of_shift turns.toShift
    intro number trigger owned args ledger stage
    by_cases own : agent = .thread trigger
    · subst own
      rw [turns.standing]
      exact stage.ended (stackOf_active active)
    · rwa [turns.standing_other own]
  | answers agent frame rest signal active same =>
    have done : state.deeds = state.frameDeeds agent signal frame := by rw [State.deeds, active]
    have replied := sound.replied active
    have turns := replied.turns
    have grows := replied.reply.grows sound.linked
    have keeps := Keeps.reply (replied.fits sound) replied.reply
    rw [← same] at turns
    have shift := turns.toShift
    rw [done]
    have known : ∀ trigger, (∃ number, state.owner trigger = some number ∧
        state.isStarted trigger = true) ∨
        ∀ number, state.owner trigger = some number → state.isStarted trigger = false := by
      intro trigger
      by_cases started : state.isStarted trigger = true
      · cases owned : state.owner trigger with
        | none => exact .inr (by rintro _ ⟨⟩)
        | some number => exact .inl ⟨number, rfl, started⟩
      · exact .inr fun _ _ => by simpa using started
    refine ⟨fun trigger number owned started => ?_, fun trigger none => ?_,
      fun trigger number owned started => ?_⟩
    · rw [shift.owner] at owned
      rw [shift.started] at started
      rw [shift.args, Ledger.of_append]
      rcases known trigger with ⟨task, mine, begun⟩ | fresh
      · obtain rfl := Option.some.inj ((grows.owner _ _ mine).symm.trans owned)
        have stage := accounts.stage trigger task mine begun
        rw [grows.args _ _ mine]
        by_cases own : agent = .thread trigger
        · subst own
          rw [turns.standing]
          refine Replied.stage sound single active mine ?_ stage
          rintro failure rfl
          exact civil trigger _ failure active (by rw [mine]; rintro ⟨⟩)
        · rw [turns.standing_other own]
          have beside := (Replied.apart sound active mine (.inl own)).beside single
          refine stage.beside beside ?_ ?_ fun failure failed => ?_
          · rcases grows.stackOf active (Ne.symm own) with kept | ⟨other, eq, unstarted, -⟩
            · exact kept
            · obtain rfl := Agent.thread.inj eq
              rw [begun] at unstarted; cases unstarted
          · exact (signalOf_other (grows.active.trans active) (Ne.symm own)).trans
              (signalOf_other active (Ne.symm own)).symm
          · exact absurd ((signalOf_other active (Ne.symm own)).symm.trans failed) (by rintro ⟨⟩)
      · obtain ⟨other, -, stage⟩ := accounts.born sound active fresh owned
        rw [Replied.unconcerned sound active fresh, accounts.fresh trigger fresh,
          turns.standing_other other]
        exact stage started
    · have fresh : ∀ number, state.owner trigger = some number →
          state.isStarted trigger = false := by
        rcases known trigger with ⟨task, mine, begun⟩ | fresh
        · have unstarted := none task ((shift.owner trigger).trans (grows.owner _ _ mine))
          rw [shift.started, grows.isStarted begun] at unstarted
          cases unstarted
        · exact fresh
      rw [Ledger.of_append, Replied.unconcerned sound active fresh, accounts.fresh trigger fresh]
      rfl
    · rw [shift.owner] at owned
      rw [shift.started] at started
      rw [shift.outcome]
      rcases known trigger with ⟨task, mine, begun⟩ | fresh
      · rw [grows.isStarted begun] at started
        cases started
      · exact (accounts.born sound active fresh owned).2.1

end Accounts

namespace Accounts

theorem staged (accounts : Accounts state past) (concerned : Ledger.of trigger past ≠ .empty) :
    ∃ number, state.owner trigger = some number ∧
      Stage number trigger (state.trigger trigger).args (state.standing number trigger)
        (.of trigger past) := by
  cases owned : state.owner trigger with
  | none =>
    refine absurd (accounts.fresh trigger fun number mine => ?_) concerned
    rw [owned] at mine; cases mine
  | some number =>
    by_cases started : state.isStarted trigger = true
    · exact ⟨number, rfl, accounts.stage trigger number owned started⟩
    · exact absurd (accounts.fresh trigger fun _ _ => by simpa using started) concerned

theorem stopped (accounts : Accounts state past) {callback : Work} {args : List Value}
    (settled : .settled (.thread trigger) number callback args ∈ past) :
    .stopped number trigger callback ∈ past := by
  have member := Ledger.mem_settlements.mpr settled
  obtain ⟨task, owned, stage⟩ := accounts.staged fun none => by rw [none] at member; cases member
  rcases stage.ledger with ⟨-, unsettled⟩ | ⟨issued, once, unsettled | settlement⟩
  · rw [unsettled] at member; cases member
  · rw [unsettled] at member; cases member
  · rw [settlement] at member
    cases List.mem_singleton.mp member
    apply Ledger.mem_stops.mp
    rw [once]
    exact List.mem_cons_self

end Accounts

/-- A trigger of a task stays what it is, and so does its decision. -/
theorem Sound.persists (sound : Sound state) (stepped : state.step = some next)
    {outcome : Outcome} (owned : state.owner trigger = some number)
    (decided : state.outcome trigger = some outcome) :
    next.owner trigger = some number ∧ next.outcome trigger = some outcome := by
  cases step_advance sound.awake stepped with
  | passes agent idle turns =>
    rw [turns.toShift.owner, turns.toShift.outcome]
    exact ⟨owned, decided⟩
  | ends agent signal active turns =>
    rw [turns.toShift.owner, turns.toShift.outcome]
    exact ⟨owned, decided⟩
  | answers agent frame rest signal active same =>
    have replied := sound.replied active
    have grows := replied.reply.grows sound.linked
    rw [same, replied.turns.toShift.owner, replied.turns.toShift.outcome]
    exact ⟨grows.owner _ _ owned, grows.outcome _ _ _ owned decided⟩

/-- Frames that end runs, and frames of callbacks, do what concerns them. -/
theorem frame_of_deed {signal : Signal} {frame : Frame} {deed : Deed} (sound : Sound state)
    {rest : List Frame} (active : state.active = some ⟨agent, frame :: rest, signal⟩)
    (member : deed ∈ state.frameDeeds agent signal frame) :
    (∀ number trigger mode outcome, deed = .ran number trigger mode outcome →
        ∃ args work, frame = .fired number trigger args mode work) ∧
      ∀ other number callback args, deed = .settled other number callback args →
        other = agent ∧ frame = .callback number callback args := by
  by_cases common : frame.isCommon = true
  · obtain ⟨-, effect⟩ := (sound.replied active).reply.of_isCommon common
    rcases effect.kinds deed member with ⟨_, rfl⟩ | ⟨_, _, _, rfl⟩ <;>
      exact ⟨(by rintro _ _ _ _ ⟨⟩), (by rintro _ _ _ _ ⟨⟩)⟩
  · cases frame with
    | fired task mine args mode work =>
      cases signal with
      | ok value =>
        rw [List.mem_singleton.mp member]
        exact ⟨fun _ _ _ _ same => by cases same; exact ⟨args, work, rfl⟩, (by rintro _ _ _ _ ⟨⟩)⟩
      | error failure =>
        simp only [frameDeeds] at member
        split at member
        · cases member
        · rw [List.mem_singleton.mp member]
          exact ⟨fun _ _ _ _ same => by cases same; exact ⟨args, work, rfl⟩, (by rintro _ _ _ _ ⟨⟩)⟩
    | callback task work args =>
      cases signal with
      | ok value =>
        rw [List.mem_singleton.mp member]
        exact ⟨(by rintro _ _ _ _ ⟨⟩), fun _ _ _ _ same => by cases same; exact ⟨rfl, rfl⟩⟩
      | error failure => cases member
    | call work args =>
      cases work <;> first | exact absurd rfl common | (cases signal <;> cases member)
    | _ => first | exact absurd rfl common | (cases signal <;> cases member)

theorem Sound.of_ran (sound : Sound state) {mode : Mode} {outcome : Signal}
    (ran : .ran number trigger mode outcome ∈ state.deeds) :
    state.owner trigger = some number ∧ state.outcome trigger = some .proceed := by
  obtain ⟨agent, frame, rest, signal, active, member⟩ := active_of_deed ran
  obtain ⟨args, work, rfl⟩ := (frame_of_deed sound active member).1 _ _ _ _ rfl
  obtain ⟨-, owned, decided, -⟩ := (sound.replied active).fits sound
  exact ⟨owned, decided⟩

theorem Sound.of_settled (sound : Sound state) {callback : Work} {args : List Value}
    (settled : .settled agent number callback args ∈ state.deeds) :
    ∃ trigger, agent = .thread trigger ∧ state.owner trigger = some number := by
  obtain ⟨other, frame, rest, signal, active, member⟩ := active_of_deed settled
  obtain ⟨rfl, rfl⟩ := (frame_of_deed sound active member).2 _ _ _ _ rfl
  obtain ⟨-, owner⟩ := (sound.replied active).fits sound
  exact owner

/-! ### Calls of callbacks -/

def callback? (state : State) : Option (Agent × Nat × Work × List Value) :=
  match state.active with
  | some ⟨agent, .call callback args :: .calledBack task _ _ :: _, .ok _⟩ =>
    some (agent, task, callback, args)
  | _ => none

/-- The calls of callbacks along a trace, those of the latest state first. -/
def callbacks (visited : List State) : List (Agent × Nat × Work × List Value) :=
  visited.filterMap callback?

def callbacksBy (trigger : Nat) (visited : List State) : List (Nat × Work × List Value) :=
  (callbacks visited).filterMap fun call =>
    if call.1 = .thread trigger then some call.2 else none

/-- A stop was issued once against a trigger, and its callback has been called by the thread of the
trigger, once and with the arguments of the next run, or is yet to be. Once the thread has ended it has
been called. -/
structure Settles (state : State) (past : List State) (number trigger : Nat) (callback : Work) :
    Prop where
  single : (Ledger.of trigger (history past)).stops = [(number, callback)]
  called : callbacksBy trigger (state :: past) = [] ∨ callbacksBy trigger (state :: past) =
    [(number, callback, (Ledger.of trigger (history past)).nextArgs (state.trigger trigger).args)]
  ended : (state.trigger trigger).thread = .ended → callbacksBy trigger (state :: past) ≠ []
  /-- Nothing but a run that has come to its end changes the arguments. -/
  fired : (Ledger.of trigger (history past)).runs ≠ [] → state.outcome trigger = some .proceed

theorem of_callback? {task : Nat} {callback : Work} {args : List Value}
    (called : state.callback? = some (agent, task, callback, args)) :
    ∃ own given rest value, state.active =
      some ⟨agent, .call callback args :: .calledBack task own given :: rest, .ok value⟩ := by
  unfold callback? at called
  split at called
  · next active =>
    cases called
    exact ⟨_, _, _, _, active⟩
  · cases called

/-- The step after that of a settlement calls the callback, and no other step calls one. -/
theorem Upright.callback?_step (upright : Upright state) (sound : Sound state)
    (stepped : state.step = some next) :
    next.callback?.toList = state.deeds.filterMap Deed.settlement? := by
  by_cases settles : ∃ agent task callback args rest value,
      state.active = some ⟨agent, .callback task callback args :: rest, .ok value⟩
  · obtain ⟨agent, task, callback, args, rest, value, active⟩ := settles
    rw [State.step, active] at stepped
    cases stepped
    rw [deeds, active]
    rfl
  · have none : next.callback? = none := by
      refine Option.eq_none_iff_forall_not_mem.mpr ?_
      rintro ⟨agent, task, callback, args⟩ called
      obtain ⟨own, given, below, signal, active⟩ := of_callback? called
      obtain ⟨frame, base, rest, value, before, calling, same⟩ :=
        upright.calling sound stepped active
      cases same
      cases calling
      exact settles ⟨_, _, _, _, _, _, before⟩
    rw [none, eq_comm, Option.toList_none, List.filterMap_eq_nil_iff]
    intro deed member
    cases deed with
    | settled agent task callback args =>
      obtain ⟨agent, frame, rest, signal, active, member⟩ := active_of_deed member
      obtain ⟨rfl, rfl⟩ := (frame_of_deed sound active member).2 _ _ _ _ rfl
      cases signal with
      | ok value => exact absurd ⟨_, _, _, _, _, _, active⟩ settles
      | error failure => cases member
    | _ => rfl

end State

/-! ### Traces -/

namespace Trace

variable {setting : Setting} {past : List State} {state : State}

theorem callbacks_eq (trace : Trace (.initial setting) past state) :
    State.callbacks (state :: past) = (State.history past).filterMap Deed.settlement? := by
  have cons : ∀ (state : State) (past : List State),
      State.callbacks (state :: past) = state.callback?.toList ++ State.callbacks past := by
    intro state past
    cases called : state.callback? <;> simp [State.callbacks, called]
  induction trace with
  | refl => rfl
  | @issue past state operation trace finished ih =>
    have none : state.deeds = [] := by rw [State.deeds, State.mainHasFinished_idle finished]
    rw [cons, ih, State.history, State.history, List.flatMap_cons, none]
    rfl
  | @step past state next trace stepped ih =>
    rw [cons, ih, trace.upright.callback?_step (trace.sound (.initial setting)) stepped,
      State.history, State.history, List.flatMap_cons, List.filterMap_append]

theorem mem_callbacks (trace : Trace (.initial setting) past state) {agent : Agent} {number : Nat}
    {callback : Work} {args : List Value} :
    (agent, number, callback, args) ∈ State.callbacks (state :: past) ↔
      .settled agent number callback args ∈ State.history past := by
  rw [trace.callbacks_eq, List.mem_filterMap]
  constructor
  · rintro ⟨deed, member, same⟩
    cases deed <;> cases same
    exact member
  · exact fun member => ⟨_, member, rfl⟩

theorem accounts (trace : Trace (.initial setting) past state)
    (single : ∀ visited ∈ past, visited.Single) (civil : ∀ visited ∈ past, visited.IsCivil) :
    state.Accounts (State.history past) := by
  induction trace with
  | refl => exact .initial setting
  | @issue past state operation trace finished ih =>
    have before := ih (fun visited member => single visited (List.mem_cons_of_mem _ member))
      fun visited member => civil visited (List.mem_cons_of_mem _ member)
    have idle := State.mainHasFinished_idle finished
    have turns := State.activateMain_turns idle [.perform operation]
    have none : state.deeds = [] := by rw [State.deeds, idle]
    rw [State.history, List.flatMap_cons, none]
    apply before.of_shift turns.toShift
    intro number trigger owned args ledger stage
    show Stage number trigger args ((state.activateMain [.perform operation]).standing number trigger)
      ledger
    rwa [turns.standing_other (by rintro ⟨⟩)]
  | step trace stepped ih =>
    have before := ih (fun visited member => single visited (List.mem_cons_of_mem _ member))
      fun visited member => civil visited (List.mem_cons_of_mem _ member)
    exact before.step (trace.sound (.initial setting)) (single _ List.mem_cons_self)
      (civil _ List.mem_cons_self) stepped

theorem fired (trace : Trace (.initial setting) past state) {number trigger : Nat} {mode : Mode}
    {outcome : Signal} (ran : .ran number trigger mode outcome ∈ State.history past) :
    state.owner trigger = some number ∧ state.outcome trigger = some .proceed := by
  induction trace with
  | refl => cases ran
  | @issue past state operation trace finished ih =>
    have none : state.deeds = [] := by rw [State.deeds, State.mainHasFinished_idle finished]
    rw [State.history, List.flatMap_cons, none] at ran
    exact ih ran
  | @step past state next trace stepped ih =>
    have sound := trace.sound (.initial setting)
    have before : state.owner trigger = some number ∧ state.outcome trigger = some .proceed :=
      (List.mem_append.mp ran).elim sound.of_ran ih
    exact sound.persists stepped before.1 before.2

theorem settlements_eq (trace : Trace (.initial setting) past state) (trigger : Nat) :
    (Ledger.of trigger (State.history past)).settlements =
      State.callbacksBy trigger (state :: past) := by
  rw [State.callbacksBy, trace.callbacks_eq, List.filterMap_filterMap]
  refine congrArg (List.filterMap · _) (funext fun deed => ?_)
  cases deed <;> rfl

theorem settles (trace : Trace (.initial setting) past state)
    (accounts : state.Accounts (State.history past)) {number trigger : Nat} {callback : Work}
    (stopped : .stopped number trigger callback ∈ State.history past) :
    state.Settles past number trigger callback := by
  have member := Ledger.mem_stops.mpr stopped
  have calls := trace.settlements_eq trigger
  obtain ⟨task, owned, stage⟩ := accounts.staged fun none => by rw [none] at member; cases member
  rcases stage.ledger with ⟨unstopped, -⟩ | ⟨issued, once, settled⟩
  · rw [unstopped] at member; cases member
  · rw [once] at member
    cases List.mem_singleton.mp member
    rw [calls] at settled
    refine ⟨once, settled, fun ended uncalled => ?_, fun ran => ?_⟩
    · obtain ⟨-, -, closed⟩ := stage.closed (State.stackOf_ended (trace.sound (.initial setting)) ended)
      rcases closed with ⟨unstopped, -⟩ | ⟨_, -, settled⟩
      · rw [once] at unstopped; cases unstopped
      · rw [calls, uncalled] at settled; cases settled
    -- A run that has ended was of a trigger that had been let go ahead.
    · obtain ⟨⟨mode, outcome⟩, found⟩ := List.exists_mem_of_ne_nil _ ran
      obtain ⟨task, done⟩ := Ledger.ran_of_mem_runs found
      exact (trace.fired done).2

theorem settled (trace : Trace (.initial setting) past state) {agent : Agent} {number : Nat}
    {callback : Work} {args : List Value}
    (settled : .settled agent number callback args ∈ State.history past) :
    ∃ trigger, agent = .thread trigger := by
  obtain ⟨visited, member, deed⟩ := List.mem_flatMap.mp settled
  have sound := trace.sound_of_initial visited (List.mem_cons_of_mem _ member)
  obtain ⟨trigger, own, -⟩ := sound.of_settled deed
  exact ⟨trigger, own⟩

/-- A task is stopped while it runs, and started again when clocks show no time: the next stop would
overwrite the one that is pending. -/
theorem blind_start_strands : ∃ past state,
    Trace (.initial { Setting.ofRules ((calendarMicros : Int) - 3610000000) (.fixed 3600) with
      plans := some [.delay 5000000] }) past state ∧ ¬ state.Single := by
  have begun : Trace (.initial { Setting.ofRules ((calendarMicros : Int) - 3610000000) (.fixed 3600) with
      plans := some [.delay 5000000] }) [] _ :=
    .refl
  obtain ⟨_, added⟩ := begun.perform rfl
    ⟨.add "job" (.text "* * * * *") (.script "work" [.sleep 10000000]), true⟩
  obtain ⟨_, started⟩ := added.perform rfl ⟨.start "job" .chain [], true⟩
  obtain ⟨_, runs⟩ := started.perform rfl ⟨.advance 6000000, true⟩
  obtain ⟨_, stopped⟩ := runs.perform rfl ⟨.stop (some "job") none, true⟩
  obtain ⟨_, late⟩ := stopped.perform rfl ⟨.advance 5000000, true⟩
  obtain ⟨_, stranded⟩ := late.perform rfl ⟨.start "job" .chain [], true⟩
  exact ⟨_, _, stranded, fun single => absurd (single 0 0 rfl) (by rintro ⟨⟩)⟩

end Trace

end Timetable
