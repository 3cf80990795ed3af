import Timetable.Machine.Step

/-! Sessions: operations that a program issues one after the other to a machine.

After an operation the threads that can go on are run, without any time passing, unless the program
does not let them.
-/

set_option autoImplicit false

namespace Timetable

/-- What an operation came to: its result, what was recorded and logged, and the state after it. -/
structure Item where
  result : Signal
  events : List Event
  log : List (Level × String)
  after : State

namespace State

/-- The number of steps after which a run is given up. -/
def patience : Nat := 1000000000000000

def result (state : State) : Signal :=
  match state.main with
  | .finished signal => signal
  | .waiting _ _ _ | .running => .error .unfinished

def completeFrames (state : State) (frames : List Frame) : State :=
  (state.activateMain frames).runUntil mainHasFinished patience

def complete (state : State) (operation : Operation) : State :=
  state.completeFrames [.perform operation]

/-- Runs the threads that can go on, without any time passing. -/
def drain (state : State) : State :=
  state.runUntil isQuiet patience

def eventsSince (state earlier : State) : List Event :=
  (state.events.take (state.events.length - earlier.events.length)).reverse

def logSince (state earlier : State) : List (Level × String) :=
  (state.log.take (state.log.length - earlier.log.length)).reverse

def labelledTriggers (state : State) : List (String × Trigger) :=
  state.labels.map fun (id, trigger) => (id, state.trigger trigger)

end State

structure Request where
  operation : Operation
  /-- Whether the threads that can go on are run afterwards. -/
  drains : Bool

namespace Session

def perform (state : State) (request : Request) : Item :=
  let completed := state.complete request.operation
  let after := if request.drains then completed.drain else completed
  ⟨completed.result, after.eventsSince state, after.logSince state, after⟩

def run (state : State) : List Request → List Item
  | [] => []
  | request :: rest =>
    let item := perform state request
    item :: run item.after rest

end Session

end Timetable
