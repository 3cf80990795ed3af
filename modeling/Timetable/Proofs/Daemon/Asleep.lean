import Timetable.Proofs.Daemon.Manned

/-! Sleeps of the main program.

A main program that sleeps wakes at its time, or at that of an interrupt, unless the run is given up
before. One that tells of errors comes to its end without a wait.
-/

set_option autoImplicit false

namespace Timetable

def Frame.ends : Frame → Bool
  | .report _ | .give _ => true
  | _ => false

namespace State

variable {state next : State} {frame : Frame} {signal : Signal} {wakes : Instant} {micros : Int}

theorem runUntil_keeps {kept : State → Prop} {stops : State → Bool}
    (step : ∀ {state next : State}, kept state → stops state = false → state.step = some next →
      kept next) : ∀ (fuel : Nat) {state : State}, kept state → kept (state.runUntil stops fuel)
  | 0, _, holds => holds
  | fuel + 1, state, holds => by
    unfold runUntil
    split
    · exact holds
    · next going =>
      split
      · exact holds
      · next next stepped =>
        exact runUntil_keeps step fuel (step holds (Bool.not_eq_true _ ▸ going) stepped)

theorem complete_eq {operation : Operation}
    (stepped : (state.issue operation).step = some next) :
    ∃ fuel, state.complete operation = next.runUntil mainHasFinished fuel := by
  refine ⟨patience - 1, ?_⟩
  show (state.issue operation).runUntil mainHasFinished (patience - 1 + 1) = _
  rw [runUntil, if_neg (by rintro ⟨⟩), stepped]

/-! ### Starts -/

inductive Closes (state : State) : Prop where
  | tells (stack : List Frame) (signal : Signal) : state.setting.sink = none →
      state.main = .running → state.active = some ⟨.main, stack, signal⟩ →
      (∀ frame ∈ stack, frame.ends = true) → Closes state
  | ended (signal : Signal) : state.main = .finished signal → state.active = none → Closes state

namespace Closes

theorem step (closes : Closes state) (going : state.mainHasFinished = false)
    (stepped : state.step = some next) : Closes next := by
  cases closes with
  | tells stack signal silent running active ends =>
    cases stack with
    | nil => exact eq_of_finished active stepped ▸ .ended signal rfl rfl
    | cons frame rest =>
      obtain ⟨tells, given, moved⟩ : OnlyTells state (state.answer .main signal frame).1 ∧
          ∃ given, (state.answer .main signal frame).2 = .resume [] given := by
        have first := ends frame List.mem_cons_self
        cases signal with
        | error failure =>
          have unseeing : frame.attends [] = true := by
            cases frame with
            | report | give => rfl
            | _ => cases first
          rw [answer_error (.inr unseeing)]
          exact ⟨rfl, _, rfl⟩
        | ok value =>
          cases frame with
          | report report =>
            obtain ⟨tells, move⟩ := answer_last .main silent
              (show (Frame.report report).isLast = true from rfl) value
            exact ⟨tells, _, move⟩
          | give given => exact ⟨rfl, _, rfl⟩
          | _ => cases first
      rw [eq_of_active active stepped, moved]
      generalize (state.answer .main signal frame).1 = later at tells
      rw [tells]
      exact .tells rest given silent running rfl
        fun frame member => ends frame (List.mem_cons_of_mem _ member)
  | ended signal finished idle =>
    rw [mainHasFinished, idle, finished] at going
    cases going

theorem runUntil (closes : Closes state) (fuel : Nat) :
    Closes (state.runUntil mainHasFinished fuel) :=
  runUntil_keeps step fuel closes

theorem result (closes : Closes state) :
    state.result = .error .unfinished ∨ state.mainHasFinished = true := by
  cases closes with
  | tells stack signal silent running => exact .inl (by rw [State.result, running])
  | ended signal finished idle => exact .inr (by rw [mainHasFinished, idle, finished])

end Closes

/-! ### Sleeps -/

/-- `Sleeps frame signal wakes state`: the main program waits for a time with a frame that gives a signal,
or it has come to that time and is about to end with the signal, or has ended. -/
inductive Sleeps (frame : Frame) (signal : Signal) (wakes : Instant) (state : State) : Prop where
  | waits : state.main = .waiting [frame] .sleep (some wakes) →
      (∀ stack given, state.active ≠ some ⟨.main, stack, given⟩) → Sleeps frame signal wakes state
  | wakes : state.main = .running → state.active = some ⟨.main, [frame], .ok .null⟩ →
      wakes ≤ state.clock → Sleeps frame signal wakes state
  | leaves : state.main = .running → state.active = some ⟨.main, [], signal⟩ →
      wakes ≤ state.clock → Sleeps frame signal wakes state
  | ended : state.main = .finished signal → state.active = none → wakes ≤ state.clock →
      Sleeps frame signal wakes state

namespace Sleeps

theorem step_waits (sound : Sound state) (waiting : state.main = .waiting [frame] .sleep (some wakes))
    (aside : ∀ stack given, state.active ≠ some ⟨.main, stack, given⟩)
    (stepped : state.step = some next) : Sleeps frame signal wakes next := by
  cases step_stepped stepped with
  | answers agent first rest given active same =>
    cases agent with
    | main => exact absurd active (aside _ _)
    | thread trigger =>
      have grows := (sound.replied active).reply.grows sound.linked
      rw [same]
      generalize (state.answer (.thread trigger) given first).1 = later at grows ⊢
      cases (state.answer (.thread trigger) given first).2 with
      | resume => exact .waits (grows.main.trans waiting) (by rintro _ _ ⟨⟩)
      | wait => exact .waits (grows.main.trans waiting) (by rintro _ _ ⟨⟩)
  | finishes agent given active same =>
    cases agent with
    | main => exact absurd active (aside _ _)
    | thread trigger => exact same ▸ .waits waiting (by rintro _ _ ⟨⟩)
  | activates first others idle _ same =>
    rw [same, activate]
    split
    · exact .waits waiting (by rintro _ _ ⟨⟩)
    · exact .waits waiting (by intro _ _ active; rw [idle] at active; cases active)
  | passes idle _ passed =>
    cases passed with
    | goesOn _ _ _ main holds =>
      cases waiting.symm.trans main
      cases holds
    | wakes => exact .waits waiting (by intro _ _ active; rw [idle] at active; cases active)
    | expires _ _ time main =>
      cases waiting.symm.trans main
      exact .wakes rfl rfl (Int.le_max_right _ _)

theorem step (sound : Sound state)
    (resumed : ∀ state : State, state.resume .main .null frame = (state, .resume [] signal))
    (sleeps : Sleeps frame signal wakes state) (going : state.mainHasFinished = false)
    (stepped : state.step = some next) : Sleeps frame signal wakes next := by
  cases sleeps with
  | waits waiting aside => exact step_waits sound waiting aside stepped
  | wakes running active late =>
    have same : next = state.make .main [] (.resume [] signal) := by
      rw [eq_of_active active stepped, answer, resumed]
    exact same ▸ .leaves running rfl late
  | leaves running active late =>
    exact eq_of_finished active stepped ▸ .ended rfl rfl late
  | ended finished idle =>
    rw [mainHasFinished, idle, finished] at going
    cases going

theorem runUntil (sound : Sound state)
    (resumed : ∀ state : State, state.resume .main .null frame = (state, .resume [] signal))
    (sleeps : Sleeps frame signal wakes state) (fuel : Nat) :
    Sleeps frame signal wakes (state.runUntil mainHasFinished fuel) :=
  (@runUntil_keeps (fun state => Sound state ∧ Sleeps frame signal wakes state) _
    (fun holds going stepped =>
      ⟨holds.1.step stepped, holds.2.step holds.1 resumed going stepped⟩) fuel _
    ⟨sound, sleeps⟩).2

theorem result (sleeps : Sleeps frame signal wakes state) :
    state.result = .error .unfinished ∨
      state.mainHasFinished = true ∧ state.result = signal ∧ wakes ≤ state.clock := by
  cases sleeps with
  | waits waiting => exact .inl (by rw [State.result, waiting])
  | wakes running => exact .inl (by rw [State.result, running])
  | leaves running => exact .inl (by rw [State.result, running])
  | ended finished idle late =>
    exact .inr ⟨by rw [mainHasFinished, idle, finished], by rw [State.result, finished], late⟩

end Sleeps

def IsCut (state : State) (micros : Int) : Prop :=
  ∃ time, state.setting.interruptAt = some time ∧ time ≤ state.clock + micros

inductive Slept (state : State) (micros : Int) (slept : State) : Prop where
  | unfinished : slept.result = .error .unfinished → Slept state micros slept
  | cut : state.IsCut micros → slept.mainHasFinished = true →
      slept.result = .error .interrupt → Slept state micros slept
  | whole : ¬ state.IsCut micros → slept.mainHasFinished = true →
      slept.result = .ok (.bool true) → state.clock + micros ≤ slept.clock →
      Slept state micros slept

theorem complete_slept (sound : Sound state) (finished : state.mainHasFinished = true)
    (micros : Int) : Slept state micros (state.complete (.advance micros)) := by
  have issued := sound.issue finished (.advance micros)
  have stepped : (state.issue (.advance micros)).step = some
      ((state.issue (.advance micros)).make .main []
        (state.sleep .main micros [.give (.bool true)])) := rfl
  obtain ⟨fuel, same⟩ := complete_eq stepped
  have later := issued.step stepped
  rw [same]
  by_cases cut : state.IsCut micros
  · obtain ⟨time, given, early⟩ := cut
    have move : state.sleep .main micros [.give (.bool true)] =
        .wait [.interrupted] .sleep (some time) := by
      unfold State.sleep
      rw [given]
      exact if_pos early
    rw [move] at later ⊢
    have sleeps : Sleeps .interrupted (.error .interrupt) time ((state.issue (.advance micros)).make
        .main [] (.wait [.interrupted] .sleep (some time))) := .waits rfl (by rintro _ _ ⟨⟩)
    rcases (sleeps.runUntil later (fun _ => rfl) fuel).result with lost | ⟨closed, failed, -⟩
    · exact .unfinished lost
    · exact .cut ⟨time, given, early⟩ closed failed
  · have move : state.sleep .main micros [.give (.bool true)] =
        .wait [.give (.bool true)] .sleep (some (state.clock + micros)) := by
      unfold State.sleep
      cases given : state.setting.interruptAt with
      | none => rfl
      | some time => exact if_neg fun early => cut ⟨time, given, early⟩
    rw [move] at later ⊢
    have sleeps : Sleeps (.give (.bool true)) (.ok (.bool true)) (state.clock + micros)
        ((state.issue (.advance micros)).make .main []
          (.wait [.give (.bool true)] .sleep (some (state.clock + micros)))) :=
      .waits rfl (by rintro _ _ ⟨⟩)
    rcases (sleeps.runUntil later (fun _ => rfl) fuel).result with lost | ⟨closed, given, late⟩
    · exact .unfinished lost
    · exact .whole cut closed given late

end State

end Timetable
