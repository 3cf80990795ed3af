import Timetable.Config
import Timetable.Session

/-! The daemon: it starts the enabled tasks of a configuration and looks at them from time to time,
until none of them is running or it is interrupted. Then it stops what is left. -/

set_option autoImplicit false

namespace Timetable

namespace Config

def register (config : Config) (state : State) : State :=
  config.tasks.foldl
    (fun state task => (state.addTask task.name task.rule (.library task.called)).1) state

end Config

def ConfiguredTask.start (task : ConfiguredTask) (state : State) : State :=
  state.complete (.start task.name task.mode task.args)

namespace Daemon

def startAll (state : State) : List ConfiguredTask → State × Except Failure Unit
  | [] => (state, .ok ())
  | task :: rest =>
    let state := task.start state
    match state.result with
    | .ok _ => startAll state rest
    | .error failure => (state, .error failure)

def launch (state : State) (config : Config) (selected : List ConfiguredTask) :
    State × Except Failure Unit :=
  let state := config.register { state with setting := { state.setting with zone := config.zone } }
  let state := state.tell .info ("Starting daemon with " ++ Text.ofNat selected.length ++
    " enabled task(s), timezone=" ++ config.zoneName)
  startAll state selected

def anyRunning (state : State) (selected : List ConfiguredTask) : Bool :=
  selected.any fun task =>
    match state.find? task.name with
    | some number => (state.entry number).isRunning
    | none => false

def sleep (state : State) (pollSeconds : Int) : State :=
  state.complete (.advance (pollSeconds * secondMicros))

def failedTasks (state : State) (selected : List ConfiguredTask) : List String :=
  (selected.filter fun task =>
    match state.find? task.name with
    | some number =>
      match (state.entry number).lastError with
      -- An error without a text does not count.
      | none | some "" => false
      | some _ => true
    | none => false).map ConfiguredTask.name

def exhausted (state : State) (selected : List ConfiguredTask) : State × Nat :=
  match failedTasks state selected with
  | [] => (state.tell .info "Daemon exiting: no task left running.", 0)
  | failed =>
    (state.tell .error ("Daemon exiting: no task left running (errors in " ++
      ", ".intercalate failed ++ ")."), 1)

def interrupted (state : State) : State × Nat :=
  (state.tell .info "Daemon interrupted by user.", 130)

/-- A look at the tasks: while one of them is running, the daemon sleeps until the next look, unless
the sleep is cut short. -/
def look (selected : List ConfiguredTask) (pollSeconds : Int) (state : State) :
    State × Option (Except Failure Nat) :=
  if anyRunning state selected then
    let state := sleep state pollSeconds
    match state.result with
    | .ok _ => (state, none)
    | .error failure =>
      if failure = .interrupt then
        let (state, code) := interrupted state
        (state, some (.ok code))
      else (state, some (.error failure))
  else
    let (state, code) := exhausted state selected
    (state, some (.ok code))

/-- Looks at the tasks until the daemon ends, for a number of times at most, where `settle` is done
between two looks. -/
def watchWith {m : Type → Type} [Monad m] (settle : State → m State)
    (selected : List ConfiguredTask) (pollSeconds : Int) :
    Nat → State → m (State × Except Failure Nat)
  | 0, state => return (state, .error .unfinished)
  | looks + 1, state =>
    match look selected pollSeconds state with
    | (state, some ended) => return (state, ended)
    | (state, none) => do watchWith settle selected pollSeconds looks (← settle state)

def watch (selected : List ConfiguredTask) (pollSeconds : Int) (looks : Nat) (state : State) :
    State × Except Failure Nat :=
  Id.run (watchWith pure selected pollSeconds looks state)

def stopEach (state : State) : List ConfiguredTask → State
  | [] => state
  | task :: rest => stopEach (state.stopNamed (.logPending task.name) [task.name]).1 rest

/-- Stops the selected tasks and shuts down. -/
def cleanUp (state : State) (selected : List ConfiguredTask) : State :=
  (stopEach state selected).complete (.shutdown none (some Operation.shutdownTimeout))

def run (state : State) (config : Config) (selected : List ConfiguredTask) (pollSeconds : Int)
    (looks : Nat) : State × Except Failure Nat :=
  match launch state config selected with
  | (state, .error failure) => (state, .error failure)
  | (state, .ok ()) =>
    let (state, code) := watch selected pollSeconds looks state
    (cleanUp state selected, code)

end Daemon

end Timetable
