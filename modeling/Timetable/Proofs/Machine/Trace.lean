import Timetable.Session

/-! Sessions as traces.

A trace lists the states that a session has been in. The main program may begin an operation
whenever it has finished the one before, whether or not the threads that can go on have been run;
everything else is a step of the machine. Every item of a session that is run is the end of a trace,
as long as the operations before it came to their end.
-/

set_option autoImplicit false

namespace Timetable

def Setting.ofRules (start : Instant) (zone : Zone) : Setting where
  start := start
  zone := zone
  plans := none
  sink := none
  longestWait := Setting.standardLongestWait
  tracesWaits := false
  interruptAt := none

def State.issue (state : State) (operation : Operation) : State :=
  state.activateMain [.perform operation]

/-- `Trace first past state`: a session that was at `first` has come to `state`, by way of the states
`past`, the latest first. -/
inductive Trace (first : State) : List State → State → Prop where
  | refl : Trace first [] first
  | issue {past : List State} {state : State} (operation : Operation) :
      Trace first past state → state.mainHasFinished = true →
      Trace first (state :: past) (state.issue operation)
  | step {past : List State} {state next : State} :
      Trace first past state → state.step = some next → Trace first (state :: past) next

theorem State.mainHasFinished_idle {state : State} (finished : state.mainHasFinished = true) :
    state.active = none := by
  unfold State.mainHasFinished at finished
  split at finished
  · assumption
  · cases finished

namespace Trace

variable {first state : State} {past : List State}

theorem append {middle : State} {later : List State} (trace : Trace first past middle)
    (after : Trace middle later state) : Trace first (later ++ past) state := by
  induction after with
  | refl => exact trace
  | issue operation _ finished ih => exact ih.issue operation finished
  | step _ stepped ih => exact ih.step stepped

theorem runUntil (trace : Trace first past state) (stops : State → Bool) (fuel : Nat) :
    ∃ added, Trace first (added ++ past) (state.runUntil stops fuel) := by
  induction fuel generalizing past state with
  | zero => exact ⟨[], trace⟩
  | succ fuel ih =>
    unfold State.runUntil
    split
    · exact ⟨[], trace⟩
    · cases stepped : state.step with
      | none => exact ⟨[], trace⟩
      | some next =>
        obtain ⟨added, reached⟩ := ih (trace.step stepped)
        exact ⟨added ++ [state], by simpa using reached⟩

theorem perform (trace : Trace first past state) (idle : state.mainHasFinished = true)
    (request : Request) :
    ∃ added, Trace first (added ++ past) (Session.perform state request).after := by
  obtain ⟨issued, completed⟩ : ∃ added, Trace first (added ++ state :: past)
      (state.complete request.operation) :=
    (trace.issue request.operation idle).runUntil State.mainHasFinished State.patience
  unfold Session.perform
  dsimp only
  split
  · obtain ⟨drains, drained⟩ : ∃ added, Trace first (added ++ (issued ++ state :: past))
        (state.complete request.operation).drain :=
      completed.runUntil State.isQuiet State.patience
    exact ⟨drains ++ issued ++ [state], by simpa using drained⟩
  · exact ⟨issued ++ [state], by simpa using completed⟩

theorem perform_perform (trace : Trace first past state) (idle : state.mainHasFinished = true)
    (request other : Request)
    (finished : (Session.perform state request).after.mainHasFinished = true) :
    ∃ added, Trace first (added ++ past)
      (Session.perform (Session.perform state request).after other).after := by
  obtain ⟨_, performed⟩ := trace.perform idle request
  obtain ⟨_, reached⟩ := performed.perform finished other
  exact ⟨_, List.append_assoc _ _ _ ▸ reached⟩

/-- Every item of a session is the end of a trace, up to the first operation that does not come to
its end. -/
theorem run (trace : Trace first past state) (idle : state.mainHasFinished = true)
    (requests : List Request) {earlier later : List Item} {item : Item}
    (items : Session.run state requests = earlier ++ item :: later)
    (finished : ∀ before ∈ earlier, before.after.mainHasFinished = true) :
    ∃ added, Trace first (added ++ past) item.after := by
  induction requests generalizing past state earlier with
  | nil => simp [Session.run] at items
  | cons request rest ih =>
    obtain ⟨issued, performed⟩ := trace.perform idle request
    cases earlier with
    | nil =>
      obtain ⟨rfl, -⟩ := List.cons.inj items
      exact ⟨issued, performed⟩
    | cons before earlier =>
      obtain ⟨rfl, tail⟩ := List.cons.inj items
      obtain ⟨rest, reached⟩ := ih performed (finished _ List.mem_cons_self) tail
        fun other member => finished other (List.mem_cons_of_mem _ member)
      exact ⟨rest ++ issued, by simpa using reached⟩

theorem visited (trace : Trace first past state) {visited : State}
    (member : visited ∈ state :: past) :
    ∃ earlier, Trace first earlier visited ∧ ∀ other ∈ earlier, other ∈ past := by
  induction trace with
  | refl =>
    rw [List.mem_singleton.mp member]
    exact ⟨[], .refl, fun _ => id⟩
  | issue operation trace finished ih =>
    rcases List.mem_cons.mp member with rfl | member
    · exact ⟨_, trace.issue operation finished, fun _ => id⟩
    · obtain ⟨earlier, reached, within⟩ := ih member
      exact ⟨earlier, reached, fun other found => List.mem_cons_of_mem _ (within other found)⟩
  | step trace stepped ih =>
    rcases List.mem_cons.mp member with rfl | member
    · exact ⟨_, trace.step stepped, fun _ => id⟩
    · obtain ⟨earlier, reached, within⟩ := ih member
      exact ⟨earlier, reached, fun other found => List.mem_cons_of_mem _ (within other found)⟩

end Trace

end Timetable
