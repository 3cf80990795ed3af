import Timetable.Proofs.Chain.Threaded
import Timetable.Proofs.Chain.Enrolled
import Timetable.Proofs.Chain.Recorded

/-! From a stop to its callback.

Once a stop has been issued against a trigger, the thread of the trigger comes to call the callback
of the stop. A trigger that waits is redirected, and one that has called its task first brings the
run to its end. The callback is called with the arguments that the next run would have had.
-/

set_option autoImplicit false

namespace Timetable

/-- The stages of the thread of a trigger from a stop that was issued against it to the call of its
callback, with the runs of the trigger that have come to their end since, the latest first. -/
inductive Passage (number trigger : Nat) (callback : Work) (args : List Value)
    (standing : Standing) : List (Mode × Signal) → Prop where
  | waits (frame : Frame) (value : Value) : frame.CountsDown trigger → standing.stack = [frame] →
      standing.signal = .ok value → standing.outcome = some .redirect →
      standing.pending = some callback → Passage number trigger callback args standing []
  | calls (value : Value) :
      standing.stack = [.call (.settle number trigger) args,
        .dispatched trigger (.settle number trigger)] →
      standing.signal = .ok value → standing.pending = some callback →
      Passage number trigger callback args standing []
  | runs (above : List Frame) (mode : Mode) (work : Work) :
      (∀ frame ∈ above, frame.isPlain = true) →
      standing.stack = above ++ [.fired number trigger args mode work,
        .dispatched trigger (.fire number trigger)] →
      standing.pending = some callback → Passage number trigger callback args standing []
  /-- The callback is called once errors have been reported. -/
  | settles {runs : List (Mode × Signal)} (above : List Frame) (target : Work) :
      (∀ frame ∈ above, frame.isPlain = true) → Shields above standing.signal →
      standing.stack = above ++ [.callback number callback (State.threaded args runs),
        .dispatched trigger target] →
      standing.pending = none → standing.held ≠ some trigger →
      Passage number trigger callback args standing runs

structure CallsBack (number trigger : Nat) (callback : Work) (given : List Value)
    (standing : Standing) : Prop where
  stack : ∃ target, standing.stack = [.call callback given, .calledBack number callback given,
    .dispatched trigger target]
  signal : ∃ value, standing.signal = .ok value
  pending : standing.pending = none
  held : standing.held ≠ some trigger

structure Over (trigger : Nat) (standing : Standing) : Prop where
  spent : ∀ frame ∈ standing.stack, frame.isSpent = true ∧ frame.isCall = false
  pending : standing.pending = none
  held : standing.held ≠ some trigger

structure Standing.Spares (trigger : Nat) (before after : Standing) : Prop where
  pending : after.pending = before.pending
  held : after.held = some trigger → before.held = some trigger
  outcome : after.outcome = before.outcome

variable {number trigger : Nat} {callback : Work} {args given : List Value}
  {before after : Standing} {runs : List (Mode × Signal)}

namespace Passage

theorem congr (passage : Passage number trigger callback args before runs)
    (spares : before.Spares trigger after) (stack : after.stack = before.stack)
    (signal : after.signal = before.signal) :
    Passage number trigger callback args after runs := by
  obtain ⟨pending, held, outcome⟩ := spares
  cases passage with
  | waits frame value counts stacked ok redirected found =>
    exact .waits frame value counts (stack.trans stacked) (signal.trans ok)
      (outcome.trans redirected) (pending.trans found)
  | calls value stacked ok found =>
    exact .calls value (stack.trans stacked) (signal.trans ok) (pending.trans found)
  | runs above mode work plain stacked found =>
    exact .runs above mode work plain (stack.trans stacked) (pending.trans found)
  | settles above target plain shields stacked taken released =>
    exact .settles above target plain (signal ▸ shields) (stack.trans stacked)
      (pending.trans taken) fun holds => released (held holds)

theorem goesOn (passage : Passage number trigger callback args before runs)
    (spares : before.Spares trigger after) {frame : Frame} {rest : List Frame} {move : Move}
    (stacked : before.stack = frame :: rest) (plain : frame.isPlain = true)
    (answers : frame.Answers before.signal move)
    (civil : ∀ text failure, frame = .sunk text → before.signal = .error failure →
      failure.leaves = false)
    (stack : after.stack = move.frames ++ rest) (signal : after.signal = move.signal) :
    Passage number trigger callback args after runs := by
  have plainly : ∀ {above : List Frame}, (∀ other ∈ frame :: above, other.isPlain = true) →
      ∀ other ∈ move.frames ++ above, other.isPlain = true := fun all other member =>
    (List.mem_append.mp member).elim (answers.plain other) fun found =>
      all other (List.mem_cons_of_mem _ found)
  obtain ⟨pending, held, outcome⟩ := spares
  cases passage with
  | waits first value counts same =>
    cases stacked.symm.trans same
    cases counts <;> cases plain
  | calls value same => cases stacked.symm.trans same; cases plain
  | runs above mode work all same found =>
    cases above with
    | nil => cases stacked.symm.trans same; cases plain
    | cons first above =>
      obtain ⟨rfl, rfl⟩ := List.cons.inj (stacked.symm.trans same)
      exact .runs (move.frames ++ above) mode work (plainly all)
        (stack.trans (List.append_assoc ..).symm) (pending.trans found)
  | settles above target all shields same taken released =>
    cases above with
    | nil => cases stacked.symm.trans same; cases plain
    | cons first above =>
      obtain ⟨rfl, rfl⟩ := List.cons.inj (stacked.symm.trans same)
      refine .settles (move.frames ++ above) target (plainly all) ?_
        (stack.trans (List.append_assoc ..).symm) (pending.trans taken)
        fun holds => released (held holds)
      rw [signal]
      exact shields.goesOn answers civil

theorem busy (passage : Passage number trigger callback args before runs) :
    before.stack ≠ [] := by
  cases passage with
  | waits frame value counts same => rw [same]; rintro ⟨⟩
  | calls value same => rw [same]; rintro ⟨⟩
  | runs above mode work plain same => rw [same]; cases above <;> rintro ⟨⟩
  | settles above target plain shields same => rw [same]; cases above <;> rintro ⟨⟩

end Passage

theorem Over.congr (rests : Over trigger before) (spares : before.Spares trigger after)
    (stack : after.stack = before.stack) : Over trigger after where
  spent := stack ▸ rests.spent
  pending := spares.pending.trans rests.pending
  held holds := rests.held (spares.held holds)

namespace State

variable {state later next : State} {agent : Agent} {frame : Frame} {rest : List Frame}
  {signal : Signal} {move : Move}

/-! ### What others do -/

theorem Replied.spares (sound : Sound state)
    (active : state.active = some ⟨agent, frame :: rest, signal⟩)
    (owned : state.owner trigger = some number)
    (unstoppable : state.stoppable? number ≠ some trigger)
    (apart : agent ≠ .thread trigger ∨ frame.isCommon = true) :
    Ledger.of trigger (state.frameDeeds agent signal frame) = .empty ∧
      (state.standing number trigger).Spares trigger
        ((state.answer agent signal frame).1.standing number trigger) := by
  cases Replied.apart sound active owned apart with
  | spared unconcerned pending held outcome => exact ⟨unconcerned, pending, held, outcome⟩
  | stopped _ _ stoppable => exact absurd stoppable unstoppable

theorem Upright.callsBack (upright : Upright state)
    (calls : CallsBack number trigger callback given (state.standing number trigger)) :
    ∃ target value, state.active = some ⟨.thread trigger, [.call callback given,
      .calledBack number callback given, .dispatched trigger target], .ok value⟩ := by
  obtain ⟨target, stacked⟩ := calls.stack
  obtain ⟨value, fine⟩ := calls.signal
  obtain ⟨signal, active⟩ := upright.top (.thread trigger) _ _ stacked rfl
  obtain rfl : signal = .ok value := (signalOf_active active).symm.trans fine
  exact ⟨target, value, active⟩

/-! ### What comes after -/

end State

end Timetable
