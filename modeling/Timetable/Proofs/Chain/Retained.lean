import Timetable.Proofs.Chain.Arms

/-! What triggers of tasks retain.

The thread of a trigger of a task is started where the trigger is made, or never. Nobody asks for its start
again, and a trigger that has just been made is undecided.
-/

set_option autoImplicit false

namespace Timetable

namespace State

/-- `Retains state later`: triggers of tasks stay so, and of those that were there before neither the
thread nor the request for its start has changed. -/
structure Retains (state later : State) : Prop where
  owner : ∀ trigger number, state.owner trigger = some number →
    later.owner trigger = some number
  thread : ∀ trigger number, state.owner trigger = some number →
    (later.trigger trigger).thread = (state.trigger trigger).thread
  begun : ∀ trigger number, later.owner trigger = some number →
    (later.trigger trigger).begun = true ∨
      state.owner trigger = some number ∧
        (later.trigger trigger).begun = (state.trigger trigger).begun

variable {state middle later next : State} {agent : Agent} {number trigger : Nat} {deeds : List Deed}

namespace Retains

theorem of_triggers (same : ∀ trigger, later.trigger trigger = state.trigger trigger) :
    Retains state later := by
  have owner : ∀ trigger, later.owner trigger = state.owner trigger :=
    fun trigger => by rw [State.owner, same]; rfl
  exact ⟨fun trigger number owned => (owner trigger).trans owned, fun trigger _ _ => by rw [same],
    fun trigger number owned => .inr ⟨(owner trigger).symm.trans owned, by rw [same]⟩⟩

theorem of_unmoved (unmoved : Unmoved state later) : Retains state later :=
  of_triggers unmoved.trigger

theorem updateEntry (state : State) (number : Nat) (change : Entry → Entry) :
    Retains state (state.updateEntry number change) :=
  of_triggers fun _ => rfl

theorem trans (first : Retains state middle) (second : Retains middle later) :
    Retains state later where
  owner trigger number owned := second.owner _ _ (first.owner _ _ owned)
  thread trigger number owned :=
    (second.thread _ _ (first.owner _ _ owned)).trans (first.thread _ _ owned)
  begun trigger number owned := by
    rcases second.begun trigger number owned with begun | ⟨before, same⟩
    · exact .inl begun
    · rw [same]
      exact first.begun trigger number before

theorem of_neutral (neutral : Neutral state later) : Retains state later where
  owner trigger number owned := (neutral.owner_eq trigger).trans owned
  thread trigger number owned := by rw [neutral.owned trigger number owned]
  begun trigger number owned := by
    rw [neutral.owner_eq] at owned
    exact .inr ⟨owned, by rw [neutral.owned trigger number owned]⟩

theorem commit (state : State) (trigger : Nat) (decided : Outcome) (callback : Option Work) :
    Retains state (state.commit trigger decided callback).1 where
  owner other number owned := (owner_commit _ _ _ _ _).trans owned
  thread other number _ := by rw [commit_keeps]
  begun other number owned := by
    rw [owner_commit] at owned
    exact .inr ⟨owned, by rw [commit_keeps]⟩

theorem endChain (state : State) (number trigger : Nat) :
    Retains state (state.endChain number trigger).1 :=
  updateEntry _ _ _

theorem spawned {args : List Value} {due : DateTime} {thread : Thread}
    (spawned : Spawned state later number args due thread) : Retains state later where
  owner trigger task owned := by
    rw [State.owner, spawned.old_of_owner owned]
    exact owned
  thread trigger task owned := by rw [spawned.old_of_owner owned]
  begun trigger task owned := by
    by_cases new : trigger = state.triggers.size
    · obtain ⟨name, made⟩ := spawned.new
      rw [new, made]
      exact .inl rfl
    · have same := spawned.old trigger new
      rw [State.owner, same] at owned
      exact .inr ⟨owned, by rw [same]⟩

theorem arming {args : List Value} {result : Except Failure (Option Report)}
    (arming : Arming state number args later result) : Retains state later := by
  cases arming with
  | blind => exact of_triggers fun _ => rfl
  | left unmoved => exact of_unmoved unmoved
  | unplanned report unmoved => exact (of_unmoved unmoved).trans (updateEntry _ _ _)
  | unstarted report unmoved made =>
    exact ((of_unmoved unmoved).trans (spawned made)).trans (updateEntry _ _ _)
  | armed unmoved made armed =>
    exact (((of_unmoved unmoved).trans (spawned made)).trans (updateEntry _ _ _)).trans
      (of_unmoved armed)

theorem ending {args : List Value} {mode : Mode} {outcome : Signal} {move : Move}
    (ending : Ending state number trigger args mode outcome later move) :
    Retains state later := by
  cases ending with
  | goesOn noted _ _ armed => exact (of_neutral noted.neutral).trans (arming armed)
  | finished reports noted => exact (of_neutral noted.neutral).trans (endChain _ _ _)

theorem complain (state : State) (trigger : Nat) (target : Work) (stage : String)
    (failure : Failure) : Retains state (state.complain trigger target stage failure).1 := by
  rcases state.complain_state trigger target stage failure with unmoved | ⟨number, report, same⟩
  · exact of_unmoved unmoved
  · rw [same]
    refine of_triggers fun other => ?_
    unfold State.abandonChain
    dsimp only
    split <;> rfl

theorem effect (effect : Effect state deeds later) : Retains state later := by
  induction effect with
  | neutral neutral => exact of_neutral neutral
  | start mode args member idle =>
    obtain ⟨_, armed⟩ := startChain_arming mode args idle
    exact (updateEntry _ _ _).trans (arming armed)
  | stop running held called =>
    rw [stopChain_eq running held]
    exact ((updateEntry _ _ _).trans (commit _ _ _ _)).trans (of_unmoved (.tell _ _ _))
  | trans _ _ first second => exact first.trans second

theorem reply {signal : Signal} {frame : Frame} {move : Move}
    (reply : Reply state agent signal frame later move) : Retains state later := by
  cases reply with
  | plain _ _ unmoved => exact of_unmoved unmoved
  | request _ done => exact effect done
  | passed => exact of_unmoved (.refl _)
  | dispatched => exact of_unmoved (.refl _)
  | calledBack => exact of_unmoved (.refl _)
  | waits _ _ _ _ unmoved => exact of_unmoved unmoved
  | proceeds => exact commit _ _ _ _
  | obeys _ _ unmoved => exact of_unmoved unmoved
  | cancelled _ _ _ unmoved => exact of_unmoved unmoved
  | breaks => exact (commit _ _ _ _).trans (complain _ _ _ _ _)
  | complains => exact complain _ _ _ _ _
  | fires _ unmoved => exact (updateEntry _ _ _).trans (of_unmoved unmoved)
  | misfires => exact of_unmoved (.refl _)
  | settles => exact endChain _ _ _
  | ran => exact ending (endRun_ending _ _ _ _ _ _ _)
  | callsBack _ _ _ unmoved => exact of_unmoved unmoved
  | regrets => exact of_neutral (.countError _ _ _)

end Retains

theorem Sound.stays_unstarted (sound : Sound state) (stepped : state.step = some next)
    (owned : state.owner trigger = some number) (unstarted : state.isStarted trigger = false) :
    next.isStarted trigger = false := by
  cases step_advance sound.awake stepped with
  | passes agent idle turns => rw [turns.toShift.started, unstarted]
  | ends agent signal active turns => rw [turns.toShift.started, unstarted]
  | answers agent frame rest signal active same =>
    have replied := sound.replied_step active stepped
    rw [replied.turns.toShift.started, isStarted, (Retains.reply replied.reply).thread _ _ owned]
    exact unstarted

def Summoned (state : State) : Prop :=
  ∀ trigger number, state.owner trigger = some number → (state.trigger trigger).begun = true

theorem Summoned.of_shift (summoned : Summoned state) (shift : Shift state later) :
    Summoned later := by
  intro trigger number owned
  rw [shift.trigger]
  exact summoned trigger number (shift.owner trigger ▸ owned)

theorem Summoned.step (summoned : Summoned state) (sound : Sound state)
    (stepped : state.step = some next) : Summoned next := by
  cases step_advance sound.awake stepped with
  | passes agent idle turns => exact summoned.of_shift turns.toShift
  | ends agent signal active turns => exact summoned.of_shift turns.toShift
  | answers agent frame rest signal active same =>
    have replied := sound.replied_step active stepped
    refine Summoned.of_shift (fun trigger number owned => ?_) replied.turns.toShift
    rcases (Retains.reply replied.reply).begun trigger number owned with begun | ⟨before, same⟩
    · exact begun
    · exact same.trans (summoned trigger number before)

theorem Sound.undecided_of_new (sound : Sound state) (stepped : state.step = some next)
    (new : state.triggers.size ≤ trigger) (owned : next.owner trigger = some number) :
    next.outcome trigger = none := by
  have none := state.outcome_of_le new
  cases step_advance sound.awake stepped with
  | passes agent idle turns => rw [turns.toShift.outcome, none]
  | ends agent signal active turns => rw [turns.toShift.outcome, none]
  | answers agent frame rest signal active same =>
    have replied := sound.replied_step active stepped
    rw [replied.turns.toShift.owner] at owned
    -- A trigger that is yet to be made has no task.
    have fresh : ∀ task, state.owner trigger = some task → state.isStarted trigger = false :=
      fun task mine => absurd (Local.within_of_owner mine) (Nat.not_lt_of_le new)
    obtain ⟨-, -, -, same, -⟩ := Replied.born sound active fresh owned
    rw [replied.turns.toShift.outcome, same, none]

end State

theorem Trace.summoned {setting : Setting} {past : List State} {state : State}
    (trace : Trace (.initial setting) past state) : state.Summoned := by
  induction trace with
  | refl => rintro _ _ ⟨⟩
  | issue operation earlier finished ih =>
    exact ih.of_shift (State.activateMain_turns (State.mainHasFinished_idle finished) _).toShift
  | step earlier stepped ih => exact ih.step (earlier.sound (.initial setting)) stepped

end Timetable
