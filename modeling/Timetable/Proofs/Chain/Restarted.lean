import Timetable.Proofs.Chain.Underway
import Timetable.Proofs.Chain.Drained
import Timetable.Proofs.Chain.Alive

/-! Restarts.

A task that does not run is restarted by a start in the mode in which it was last. A task that runs
is stopped, and the thread of the trigger that its chain had starts it once, in the mode of the
chain, with the arguments that were given or else those of the run that the chain would have had
next.
-/

set_option autoImplicit false

namespace Timetable

namespace State

variable {setting : Setting} {state later next first : State} {past : List State}
  {agent : Agent} {number trigger : Nat} {name : String} {mode : Mode} {args : List Value}
  {rest : List Frame} {value : Value}

/-! ### The stop -/

/-- No call is left on a stack where an operation has been asked for. -/
theorem Upright.uncalled (upright : Upright state) {operation : Operation} {signal : Signal}
    (active : state.active = some ⟨agent, .perform operation :: rest, .ok value⟩)
    (next : Upright first) (goes : first.active = some ⟨agent, rest, signal⟩) (other : Agent) :
    ∀ frame ∈ first.stackOf other, frame.isCall = false := by
  intro frame member
  cases stacked : first.stackOf other with
  | nil => rw [stacked] at member; cases member
  | cons top below =>
    rw [stacked] at member
    rcases List.mem_cons.mp member with rfl | member
    · refine Bool.eq_false_iff.mpr fun call => ?_
      obtain ⟨signal, running⟩ := next.top other _ _ stacked call
      cases goes.symm.trans running
      rw [upright.rest_isCall active _ List.mem_cons_self] at call
      cases call
    · refine next.buried other frame ?_
      rw [stacked]
      exact member

/-- A start that is underway is so while the main program begins an operation. -/
theorem Underway.issue {behind : List State}
    (underway : Underway first name number trigger mode args behind state)
    (finished : state.mainHasFinished = true) (operation : Operation) :
    Underway first name number trigger mode args (state :: behind) (state.issue operation) := by
  have idle := mainHasFinished_idle finished
  have none : state.deeds = [] := by rw [deeds, idle]
  have unnoted : state.reported ++ state.unreported = [] := by rw [reported, unreported, idle]; rfl
  have standing : (state.issue operation).standing number trigger =
      state.standing number trigger :=
    (activateMain_turns idle [.perform operation]).standing_other (by rintro ⟨⟩)
  have runs : runsOf trigger (state :: behind) = runsOf trigger behind := by
    rw [runsOf_cons, none]; rfl
  refine ⟨underway.found, underway.owned, underway.started, underway.given, underway.idle,
    underway.held, ?_, ?_, ?_⟩
  · rw [starts_cons, none]
    exact (Nat.zero_add _).trans underway.unstarted
  · rw [runs, errorsBeside_cons, unnoted]
    exact underway.errors.trans (congrArg _ (Nat.zero_add _).symm)
  · rw [runs, standing]
    exact underway.stage

theorem CarriesOver.cons {behind : List State} {prior : State}
    (carries : CarriesOver first name number trigger mode args behind prior)
    (none : .started number ∉ prior.deeds) (next : State) :
    CarriesOver first name number trigger mode args (prior :: behind) next := by
  obtain ⟨⟨earlier, visited, made, within, resumption⟩, once⟩ := carries
  refine ⟨⟨earlier, visited, made, within.trans (List.suffix_cons _ _), resumption⟩, ?_⟩
  rw [starts_cons, starts_eq_zero none, once]

end State

namespace Trace

variable {setting : Setting} {state first final : State} {past later : List State}
  {agent : Agent} {number trigger : Nat} {name : String} {mode : Mode} {args : List Value}
  {rest : List Frame} {value : Value}

/-! ### Runs -/

theorem persists (trace : Trace first later state) (sound : first.Sound) {outcome : Outcome}
    (owned : first.owner trigger = some number) (decided : first.outcome trigger = some outcome) :
    state.owner trigger = some number ∧ state.outcome trigger = some outcome := by
  induction trace with
  | refl => exact ⟨owned, decided⟩
  | issue operation earlier finished ih => exact ih
  | step earlier stepped ih => exact (earlier.sound sound).persists stepped ih.1 ih.2

/-- A task is restarted during a run that comes to its end when clocks show no time: the start
raises, and the task is left running with no trigger. -/
theorem blind_restart_strands : ∃ past state,
    Trace (.initial { Setting.ofRules ((calendarMicros : Int) - 3610000000) (.fixed 3600) with
      plans := some [.delay 5000000] }) past state ∧ (state.entry 0).isRunning = true ∧
      (state.entry 0).trigger = none ∧ (state.entry 0).errors = 1 ∧
      (state.trigger 0).thread = .ended := by
  have begun : Trace (.initial { Setting.ofRules ((calendarMicros : Int) - 3610000000)
      (.fixed 3600) with plans := some [.delay 5000000] }) [] _ := .refl
  obtain ⟨_, added⟩ := begun.perform rfl
    ⟨.add "job" (.text "* * * * *") (.script "work" [.sleep 10000000]), true⟩
  obtain ⟨_, started⟩ := added.perform rfl ⟨.start "job" .chain [.int 1], true⟩
  obtain ⟨_, runs⟩ := started.perform rfl ⟨.advance 6000000, true⟩
  obtain ⟨_, restarted⟩ := runs.perform rfl ⟨.restart "job" [], true⟩
  obtain ⟨_, stranded⟩ := restarted.perform rfl ⟨.advance 10000000, true⟩
  exact ⟨_, _, stranded, rfl, rfl, rfl, rfl⟩

end Trace

end Timetable
