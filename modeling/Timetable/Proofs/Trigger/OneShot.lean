import Timetable.Proofs.Attempts
import Timetable.Proofs.Trigger.Shot
import Timetable.Proofs.Zone.Shown

/-! Triggers are one-shot, and the first decision wins.

However starts, cancellations, redirections and the clock come together: the first commitment on a
trigger counts and no other does, the trigger makes at most the one call that it was decided to make, and
a trigger that cannot wait for its time calls nothing and reports that once.
-/

set_option autoImplicit false

namespace Timetable

/-- The instant at which a time has come; a time without a zone is what the clock of the machine
shows then. -/
def DateTime.comesAt (time : DateTime) (machine : MachineZone) : Except Fault Instant :=
  if time.zone.isSome then time.instant
  else .ok (time.wall.micros - machine.offset * secondMicros)

section Waits

variable {clock : Instant} {time : DateTime} {machine : MachineZone} {remaining : Int}

theorem untilDue_zoned (zoned : time.zone.isSome = true) :
    untilDue clock (some time) machine = time.instant.bind fun due =>
      (Wall.ofMicros clock).map fun present => max (due - present.micros) 0 := by
  simp only [untilDue, zoned, if_true]
  rfl

theorem untilDue_naive (naive : ¬time.zone.isSome = true) :
    untilDue clock (some time) machine =
      (Wall.ofMicros (clock + machine.offset * secondMicros)).map fun present =>
        max ((time.wall.micros : Int) - present.micros) 0 := by
  simp only [untilDue, naive, Bool.false_eq_true, if_false]
  rfl

/-- Nothing is left of a wait once the clock has come to the time. -/
theorem comes_of_untilDue {due : Option DateTime}
    (left : untilDue clock due machine = .ok remaining) (past : remaining ≤ 0) :
    ∃ time instant, due = some time ∧ time.comesAt machine = .ok instant ∧ instant ≤ clock := by
  cases due with
  | none => cases left
  | some time =>
    by_cases zoned : time.zone.isSome = true
    · rw [untilDue_zoned zoned] at left
      obtain ⟨instant, comes, left⟩ := bound_eq_ok.mp left
      obtain ⟨present, shown, rfl⟩ := mapped_eq_ok.mp left
      refine ⟨time, instant, rfl, (if_pos zoned).trans comes, ?_⟩
      rw [Wall.ofMicros_eq_ok.mp shown]
      exact Int.le_of_sub_nonpos (Int.le_trans (Int.le_max_left _ 0) past)
    · rw [untilDue_naive zoned] at left
      obtain ⟨present, shown, rfl⟩ := mapped_eq_ok.mp left
      refine ⟨time, _, rfl, if_neg zoned, ?_⟩
      have passed := Int.le_of_sub_nonpos (Int.le_trans (Int.le_max_left _ 0) past)
      rw [← Wall.ofMicros_eq_ok.mp shown] at passed
      exact Int.sub_right_le_of_le_add passed

end Waits

namespace State

variable {state later next : State} {agent : Agent} {trigger number : Nat}

/-! ### Commitments to proceed -/

def Redirects (tried : Commitment) : Prop :=
  tried.outcome = .redirect ∧ tried.callback ≠ none

theorem stopAttempts_redirect {tried : Commitment}
    (member : tried ∈ state.stopAttempts trigger number) : Redirects tried := by
  unfold stopAttempts at member
  split at member
  · split at member
    · rw [List.mem_singleton.mp member]
      exact ⟨rfl, by rintro ⟨⟩⟩
    · cases member
  · cases member

theorem stopAllAttempts_redirect {tried : Commitment} {callback : Work} {names : List String}
    (member : tried ∈ state.stopAllAttempts trigger callback names) : Redirects tried := by
  induction names generalizing state with
  | nil => cases member
  | cons name rest ih =>
    unfold stopAllAttempts at member
    split at member
    · exact ih member
    · exact (List.mem_append.mp member).elim stopAttempts_redirect ih

/-- What the program does to a trigger is to cancel it or to redirect it. -/
theorem operationAttempts_own {tried : Commitment} {operation : Operation}
    (member : tried ∈ state.operationAttempts trigger operation) :
    tried.outcome = .cancel ∨ Redirects tried := by
  cases operation with
  | cancel id =>
    simp only [operationAttempts] at member
    split at member
    · rw [List.mem_singleton.mp member]
      exact .inl rfl
    · cases member
  | redirect id fn =>
    simp only [operationAttempts] at member
    split at member
    · rw [List.mem_singleton.mp member]
      exact .inr ⟨rfl, by rintro ⟨⟩⟩
    · cases member
  | restart name args =>
    simp only [operationAttempts] at member
    split at member
    · cases member
    · exact .inr (stopAttempts_redirect member)
  | stop name callback =>
    cases name <;> exact .inr (stopAllAttempts_redirect member)
  | shutdown callback timeout => exact .inr (stopAllAttempts_redirect member)
  | _ => cases member

structure Accounted (state : State) (trigger : Nat) (done : Doings) : Prop where
  fresh : state.isStarted trigger = false → done = .none
  shot : state.isStarted trigger = true →
    Shot trigger (state.trigger trigger) (state.stackOf (.thread trigger))
      (state.signalOf (.thread trigger)) done

namespace Accounted

variable {done : Doings}

theorem of_turns {stack : List Frame} {signal : Signal}
    (turns : Turns state next agent stack signal)
    (fresh : state.isStarted trigger = false → done = .none)
    (own : agent = .thread trigger → state.isStarted trigger = true →
      Shot trigger (state.trigger trigger) stack signal done)
    (other : agent ≠ .thread trigger → state.isStarted trigger = true →
      Shot trigger (state.trigger trigger) (state.stackOf (.thread trigger))
        (state.signalOf (.thread trigger)) done) : Accounted next trigger done where
  fresh unstarted := fresh (turns.started trigger ▸ unstarted)
  shot started := by
    rw [turns.started] at started
    have tries : Tries trigger state [] next := turns.toShift.tries
    have within := within_of_isStarted started
    refine Shot.congr ?_ (tries.alike within) fun decided => (tries.decides.taken decided).1
    by_cases mine : agent = .thread trigger
    · subst mine
      rw [turns.stack, turns.signal]
      exact own rfl started
    · rw [turns.otherStacks _ (Ne.symm mine), turns.otherSignals _ (Ne.symm mine)]
      exact other mine started

end Accounted

theorem Sound.doings_of_other (sound : Sound state) {frame : Frame} {rest : List Frame}
    {signal : Signal} (active : state.active = some ⟨agent, frame :: rest, signal⟩)
    (other : agent ≠ .thread trigger) : state.doings trigger = .none := by
  have fits := sound.fits_active active
  have top := fits frame List.mem_cons_self
  refine doings_of_baseless active (fun counting => ?_) (fun target same => ?_)
    fun work args target below _ same => ?_
  · cases frame with
    | countdown counted =>
      cases counting
      exact other top
    | waited counted =>
      cases counting
      exact other top
    | _ => cases counting
  · rw [same] at top
    exact other top.1
  · have under := fits (.dispatched trigger target)
      (List.mem_cons_of_mem _ (same ▸ List.mem_cons_self))
    exact other under.1

theorem signalOf_congr (active : later.active = state.active) (other : Agent) :
    later.signalOf other = state.signalOf other := by
  simp only [signalOf, active]

/-- Along a step of another runner a trigger at most begins to wait. -/
theorem Sound.accounted_aside (sound : Sound state) {frame : Frame} {rest : List Frame}
    {signal : Signal} (active : state.active = some ⟨agent, frame :: rest, signal⟩)
    (other : agent ≠ .thread trigger) {done : Doings} (accounted : Accounted state trigger done) :
    Accounted (state.answer agent signal frame).1 trigger done := by
  have grows := (sound.replied active).reply.grows sound.linked
  have tries : Tries trigger state _ _ := sound.answer_tries active
  generalize (state.answer agent signal frame).1 = later at grows tries ⊢
  have signals := signalOf_congr grows.active (.thread trigger)
  have different : Agent.thread trigger ≠ agent := Ne.symm other
  cases before : state.isStarted trigger with
  | true =>
    refine ⟨fun unstarted => ?_, fun _ => ?_⟩
    · rw [grows.isStarted before] at unstarted
      cases unstarted
    · -- A thread that was started is not started again.
      rcases grows.stackOf active different with same | ⟨begun, mine, unstarted, -⟩
      · rw [same, signals]
        exact (accounted.shot before).congr (tries.alike (within_of_isStarted before))
          fun decided => (tries.decides.taken decided).1
      · cases mine
        rw [before] at unstarted
        cases unstarted
  | false =>
    refine ⟨fun _ => accounted.fresh before, fun started => ?_⟩
    rw [accounted.fresh before]
    have idle : state.signalOf (.thread trigger) = .ok .null := signalOf_other active different
    -- It was started by this step, or it has not been started yet.
    rcases grows.thread trigger with same | ⟨-, suspended⟩
    · rw [isStarted, same] at started
      rw [isStarted] at before
      rw [before] at started
      cases started
    · have waits : later.stackOf (.thread trigger) = [.countdown trigger] := by
        rw [stackOf_other (grows.active.trans active) different, parked, suspended]
        rfl
      exact .waits (.countdown trigger) .null (.countdown trigger) waits (signals.trans idle)

/-- What has been done for a trigger fits the stage of its thread after a step as before. -/
theorem Sound.accounted (sound : Sound state) (stepped : state.step = some next) {done : Doings}
    (accounted : Accounted state trigger done) :
    Accounted next trigger (done.append (state.doings trigger)) := by
  cases step_advance sound.awake stepped with
  | passes agent idle turns =>
    rw [doings_idle idle, Doings.append_none]
    refine .of_turns turns accounted.fresh (fun mine started => ?_) fun _ => accounted.shot
    have shot := accounted.shot started
    rw [signalOf_none idle] at shot
    exact mine ▸ shot
  | ends agent signal active turns =>
    rw [doings_ended active, Doings.append_none]
    refine .of_turns turns accounted.fresh (fun mine started => ?_) fun _ => accounted.shot
    have shot := accounted.shot started
    rw [← mine, stackOf_active active] at shot
    exact shot.ended _
  | answers agent frame rest signal active same =>
    have turns := (sound.replied active).turns
    rw [same]
    by_cases mine : agent = .thread trigger
    · subst mine
      have started := isStarted_of_running (sound.awake trigger _ _ active)
      have shot := accounted.shot started
      rw [stackOf_active active, signalOf_active active] at shot
      have begun := ((sound.replied active).reply.grows sound.linked).isStarted started
      refine .of_turns turns (fun unstarted => ?_) (fun _ _ => sound.shot active shot)
        fun other => absurd rfl other
      rw [begun] at unstarted
      cases unstarted
    · rw [sound.doings_of_other active mine, Doings.append_none]
      have aside := sound.accounted_aside active mine accounted
      exact .of_turns turns aside.fresh (fun own => absurd own mine) fun _ => aside.shot

/-! ### What has been done in the end -/

end State

namespace Trace

variable {setting : Setting} {past : List State} {state : State}

theorem accounted (trace : Trace (.initial setting) past state) (trigger : Nat) :
    state.Accounted trigger (State.done trigger past) := by
  induction trace with
  | refl => exact ⟨fun _ => rfl, by rintro ⟨⟩⟩
  | issue operation earlier finished ih =>
    have idle := State.mainHasFinished_idle finished
    rw [State.done_cons, State.doings_idle idle, State.Doings.append_none]
    exact .of_turns (State.activateMain_turns idle _) ih.fresh (by rintro ⟨⟩) fun _ => ih.shot
  | step earlier stepped ih =>
    rw [State.done_cons]
    exact (earlier.sound (.initial setting)).accounted stepped ih

end Trace

end Timetable
