import Timetable.Decision
import Timetable.Machine.Frame
import Timetable.Occurrence
import Timetable.Store

/-! The state of a machine: its clock, its tasks, its triggers and their threads.

One thread runs at a time, until it waits or ends. Threads that can go on stand in a queue. The main
program has no thread among them: it runs first, and when it waits, time passes.
-/

set_option autoImplicit false

namespace Timetable

inductive Plan where
  /-- A run so many microseconds after the time asked about. -/
  | delay (micros : Int)
  | run (time : DateTime)
  | never
  | raise (failure : Failure)

structure Sink where
  id : Nat
  actions : List Action

inductive ErrorTarget where
  | log
  | sink (sink : Sink)
  /-- The task that the trigger was armed for. -/
  | entry (entry : Nat)
  deriving Inhabited

structure Setting where
  start : Instant
  zone : Zone
  /-- The steps of a scripted planner; without them tasks run as their rules say. -/
  plans : Option (List Plan)
  sink : Option Sink
  /-- The longest wait for a decision, in microseconds. -/
  longestWait : Int
  /-- Whether waits for decisions are recorded. -/
  tracesWaits : Bool
  /-- When sleeps of the main program are cut short. -/
  interruptAt : Option Instant
  /-- The zone of the machine, for times without one. -/
  home : MachineZone := .universal

def Setting.standardLongestWait : Int := 9223372036 * secondMicros

inductive Thread where
  | unstarted
  | suspended (stack : List Frame)
  | running
  | ended
  deriving Inhabited

def Thread.isAlive : Thread → Bool
  | .suspended _ | .running => true
  | .unstarted | .ended => false

/-- A countdown to a time, upon which its work is done, or other work, or none. -/
structure Trigger where
  due : Option DateTime
  work : Work
  args : List Value
  errors : ErrorTarget
  name : String
  decision : Decision Work
  begun : Bool
  thread : Thread
  deriving Inhabited

def timeText (form : DateTime → String) : Option DateTime → String
  | none => Value.null.literal
  | some time => form time

/-- A trigger whose call has been let through. -/
def Trigger.fired (trigger : Trigger) : Bool :=
  decide (trigger.decision.outcome = some .proceed)

inductive Agent where
  | main
  | thread (trigger : Nat)
  deriving DecidableEq, Repr

structure Active where
  agent : Agent
  stack : List Frame
  signal : Signal

structure Waiter where
  thread : Nat
  pause : Pause
  deadline : Option Instant
  deriving DecidableEq, Repr

inductive Main where
  | finished (signal : Signal)
  | waiting (stack : List Frame) (pause : Pause) (deadline : Option Instant)
  | running

inductive Level where
  | debug
  | info
  | warning
  | error
  deriving DecidableEq, Repr

def Level.name : Level → String
  | .debug => "DEBUG"
  | .info => "INFO"
  | .warning => "WARNING"
  | .error => "ERROR"

inductive Event where
  | call (time : Int) (name : String) (args : List Value)
  | woke (time : Int) (name : String)
  | sink (time : Int) (report : Report)
  | wait (time : Int) (timeout : Option Int)
  | plan (time : Int) (rule : Rule) (after : DateTime)
  | inner (time : Int) (operation : String) (outcome : Signal)

structure State where
  setting : Setting
  clock : Instant
  /-- Every task that was ever added. -/
  entries : Store Entry
  /-- The tasks that are registered, in order. -/
  registered : List Nat
  /-- Every trigger that was ever made. -/
  triggers : Store Trigger
  /-- Names under which the program made triggers, each with the last one. -/
  labels : List (String × Nat)
  /-- For each script, the number of its calls. -/
  turns : Store Nat
  planned : Nat
  /-- The number of starts of threads that are yet to fail. -/
  failingStarts : Nat
  active : Option Active
  /-- Threads that can go on, in order. -/
  ready : List Nat
  /-- Threads that wait, in the order in which they began to. -/
  waiting : List Waiter
  main : Main
  /-- What was recorded, the latest first. -/
  events : List Event
  /-- Lines of the log, the latest first. -/
  log : List (Level × String)

namespace State

def initial (setting : Setting) : State where
  setting := setting
  clock := setting.start
  entries := .empty
  registered := []
  triggers := .empty
  labels := []
  -- The script numbered zero is that of the sink.
  turns := Store.empty.add 0
  planned := 0
  failingStarts := 0
  active := none
  ready := []
  waiting := []
  main := .finished (.ok .null)
  events := []
  log := []

def elapsed (state : State) : Int :=
  state.clock - state.setting.start

def entry (state : State) (number : Nat) : Entry :=
  state.entries.get number

def trigger (state : State) (number : Nat) : Trigger :=
  state.triggers.get number

def updateEntry (state : State) (number : Nat) (change : Entry → Entry) : State :=
  { state with entries := state.entries.update number change }

def updateTrigger (state : State) (number : Nat) (change : Trigger → Trigger) : State :=
  { state with triggers := state.triggers.update number change }

def record (state : State) (event : Event) : State :=
  { state with events := event :: state.events }

def tell (state : State) (level : Level) (line : String) : State :=
  { state with log := (level, line) :: state.log }

def now (state : State) : Except Fault DateTime :=
  DateTime.ofInstant state.setting.zone state.clock

def find? (state : State) (name : String) : Option Nat :=
  state.registered.find? fun number => decide ((state.entry number).name = name)

/-- The trigger that was last made under a name. -/
def labelled? (state : State) (id : String) : Option Nat :=
  state.labels.lookup id

def handOver (state : State) : Callable → State × Work
  | .script name actions =>
    ({ state with turns := state.turns.add 0 }, .script state.turns.size name actions)
  | .library called => (state, .library called)
  | .plain value => (state, .plain value)

def takeTurn (state : State) (script : Nat) : State × Nat :=
  ({ state with turns := state.turns.update script (· + 1) }, state.turns.get script + 1)

def snapshot (state : State) (entry : Entry) : Snapshot where
  name := entry.name
  status := entry.status
  mode := entry.mode
  rule := entry.rule.describe
  work := entry.work.describe
  nextRun := entry.nextRun
  lastRunAt := entry.lastRunAt
  lastError := entry.lastError
  runs := entry.runs
  errors := entry.errors
  stopping := !entry.stops.isEmpty
  pendingArgs :=
    match entry.trigger with
    | some trigger => (state.trigger trigger).args
    | none => []

def snapshots (state : State) : List Snapshot :=
  state.registered.map fun number => state.snapshot (state.entry number)

end State

end Timetable
