import Timetable.Work

/-! Entries of the registry of tasks. -/

set_option autoImplicit false

namespace Timetable

inductive Status where
  | idle
  | running
  deriving DecidableEq, Repr, Inhabited

def Status.name : Status → String
  | .idle => "idle"
  | .running => "running"

/-- A task: its rule and its work, the trigger that is armed for it or that still settles, and the
callbacks of stops under the triggers that the stops were issued against. -/
structure Entry where
  name : String
  rule : Rule
  work : Work
  mode : Mode
  status : Status
  trigger : Option Nat
  stops : List (Nat × Work)
  nextRun : Option DateTime
  lastRunAt : Option DateTime
  lastError : Option String
  runs : Nat
  errors : Nat
  deriving Inhabited

structure Snapshot where
  name : String
  status : Status
  mode : Mode
  rule : String
  work : String
  nextRun : Option DateTime
  lastRunAt : Option DateTime
  lastError : Option String
  runs : Nat
  errors : Nat
  stopping : Bool
  pendingArgs : List Value

namespace Entry

def new (name : String) (rule : Rule) (work : Work) : Entry where
  name := name
  rule := rule
  work := work
  mode := .chain
  status := .idle
  trigger := none
  stops := []
  nextRun := none
  lastRunAt := none
  lastError := none
  runs := 0
  errors := 0

def isRunning (entry : Entry) : Bool :=
  decide (entry.status = .running)

def countError (entry : Entry) (message : String) : Entry :=
  { entry with lastError := some message, errors := entry.errors + 1 }

/-- The entry after an error that ends its chain. -/
def breakOff (entry : Entry) (message : String) : Entry :=
  { entry with status := .idle, trigger := none, nextRun := none }.countError message

def begin (entry : Entry) (mode : Mode) : Entry :=
  { entry with mode, status := .running }

def arm (entry : Entry) (trigger : Nat) (due : DateTime) : Entry :=
  { entry with trigger := some trigger, nextRun := some due }

def noteRun (entry : Entry) (time : DateTime) : Entry :=
  { entry with lastRunAt := some time, runs := entry.runs + 1 }

def dropStop (entry : Entry) (trigger : Nat) : Entry :=
  { entry with stops := entry.stops.filter fun stop => decide (stop.1 ≠ trigger) }

def stop (entry : Entry) (trigger : Nat) (callback : Work) : Entry :=
  { entry with
    status := .idle
    nextRun := none
    -- A later stop against the same trigger takes the place of an earlier one.
    stops := (trigger, callback) :: (entry.dropStop trigger).stops }

def release (entry : Entry) (trigger : Nat) : Entry :=
  if entry.trigger = some trigger then
    { entry with trigger := none, nextRun := none }.dropStop trigger
  else entry.dropStop trigger

def stopCallback? (entry : Entry) (trigger : Nat) : Option Work :=
  entry.stops.lookup trigger

end Entry

namespace Snapshot

def timeValue : Option DateTime → Value
  | none => .null
  | some time => .text time.iso

def toValue (snapshot : Snapshot) : Value :=
  Value.ofEntries [
    (.text "name", .text snapshot.name),
    (.text "status", .text snapshot.status.name),
    (.text "mode", .text snapshot.mode.name),
    (.text "rule", .text snapshot.rule),
    (.text "function", .text snapshot.work),
    (.text "next_run", timeValue snapshot.nextRun),
    (.text "last_run_at", timeValue snapshot.lastRunAt),
    (.text "last_error", (snapshot.lastError.map Value.text).getD .null),
    (.text "runs", .int snapshot.runs),
    (.text "errors", .int snapshot.errors),
    (.text "stopping", .bool snapshot.stopping),
    (.text "pending_args", .list snapshot.pendingArgs)]

end Snapshot

end Timetable
