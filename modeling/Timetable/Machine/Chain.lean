import Timetable.Machine.Thread

/-! Chains of tasks: each trigger that fires runs its task and arms the next trigger.

A running task holds the trigger that is armed for it. A stop leaves the trigger with the task until
the thread of the trigger settles it, by running the callback of the stop with the arguments that
the next run would have had. A chain that was stopped and replaced settles its own callback only.
-/

set_option autoImplicit false

namespace Timetable

namespace State

/-! ### Planning -/

def planned? (after : DateTime) : Plan → Except Failure (Option DateTime)
  | .delay micros =>
    match after.wall.plus micros with
    | .error fault => .error fault.failure
    | .ok wall => .ok (some ⟨wall, after.zone, false⟩)
  | .run time => .ok (some time)
  | .never => .ok none
  | .raise failure => .error failure

/-- The next run after a time: by the rule, or by the step of the planner whose turn it is, where
the last step is repeated. -/
def plan (state : State) (rule : Rule) (after : DateTime) :
    State × Except Failure (Option DateTime) :=
  match state.setting.plans with
  | none => (state, (rule.nextRun after).mapError Fault.failure)
  | some plans =>
    let step := (plans[min state.planned (plans.length - 1)]?).getD .never
    ({ state.record (.plan state.elapsed rule after) with planned := state.planned + 1 },
      planned? after step)

/-- The later one of the present and the time that a chain has come to. -/
def planFrom (now : DateTime) : Option DateTime → Except Fault DateTime
  | none => .ok now
  | some after => do
    let reached ← after.instant
    let present ← now.instant
    -- A chain that is late goes on from the present: the runs it missed are not made up for.
    return if present < reached then after else now

/-! ### Errors -/

def taskReport (entry : Entry) (args : List Value) (due : Option DateTime)
    (cause : Option Failure) (message : String) : Report :=
  ⟨message, due, entry.work, args, cause⟩

def countError (state : State) (entry : Nat) (report : Report) : State :=
  state.updateEntry entry fun entry => entry.countError report.message

def breakOff (state : State) (entry : Nat) (report : Report) : State :=
  state.updateEntry entry fun entry => entry.breakOff report.message

/-! ### Arming -/

/-- Arms a task for a run. If the thread cannot be started, the chain breaks off. -/
def armFor (state : State) (number : Nat) (args : List Value) (due : DateTime) :
    State × Option Report :=
  let entry := state.entry number
  -- The work of the trigger names the trigger itself, so its number is taken before it is made.
  let trigger := state.triggers.size
  let state := state.makeTrigger (some due) (.fire number trigger) args (.entry number) entry.name
  match state.startThread trigger with
  | (state, .ok ()) =>
    let state := state.updateEntry number fun entry => entry.arm trigger due
    (state.tell .info ("Task " ++ entry.name ++ " armed for " ++ due.iso), none)
  | (state, .error failure) =>
    let report := taskReport entry args (some due) (some failure)
      ("Error: unable to start trigger for task " ++ entry.name ++ ": " ++ failure.message)
    (state.breakOff number report, some report)

/-- Plans the next run of a task and arms it. Without a run the chain breaks off, and the error is
to be reported. A clock that shows no time is a failure, and so is a request of the planner to
leave; they leave the task as it is. -/
def arm (state : State) (number : Nat) (args : List Value) (after : Option DateTime) :
    State × Except Failure (Option Report) :=
  match state.now with
  | .error fault => (state, .error fault.failure)
  | .ok now =>
    let entry := state.entry number
    -- From here on every failure but a request to leave breaks the chain off with a report.
    let (state, run) : State × Except Failure (Option DateTime) :=
      match planFrom now after with
      | .error fault => (state, .error fault.failure)
      | .ok time => state.plan entry.rule time
    match run with
    | .ok (some due) =>
      let (state, report) := state.armFor number args due
      (state, .ok report)
    | .ok none =>
      let report := taskReport entry args none none
        ("Error: task " ++ entry.name ++ " has no run within the lookahead window (" ++
          entry.rule.describe ++ ").")
      (state.breakOff number report, .ok (some report))
    | .error failure =>
      if failure.leaves then (state, .error failure)
      else
        let report := taskReport entry args none (some failure)
          ("Error: unable to compute next run for task " ++ entry.name ++ ": " ++ failure.message)
        (state.breakOff number report, .ok (some report))

/-! ### Starting and stopping -/

def reportFrames (report : Option Report) : List Frame :=
  (report.map Frame.report).toList

def startChain (state : State) (number : Nat) (mode : Mode) (args : List Value) : State × Move :=
  if (state.entry number).isRunning then (state, .give (.bool false))
  else
    -- The task counts as running before it is armed; only a chain that breaks off takes that back.
    let state := state.updateEntry number fun entry => entry.begin mode
    match state.arm number args none with
    | (state, .error failure) => (state, .fail failure)
    | (state, .ok report) =>
      (state, .go (reportFrames report ++ [.give (.bool (state.entry number).isRunning)]))

def startNamed (state : State) (name : String) (mode : Mode) (args : List Value) : State × Move :=
  match state.find? name with
  | none => (state.tell .warning ("Cannot start unknown task " ++ name), .give (.bool false))
  | some number => state.startChain number mode args

/-- Stops a task that is running, and tells whether it was. The stop loses to a trigger that has
fired; the trigger then settles it once the run is over. -/
def stopChain (state : State) (number : Nat) (callback : Work) : State × Bool :=
  let entry := state.entry number
  match entry.status, entry.trigger with
  | .running, some trigger =>
    let state := state.updateEntry number fun entry => entry.stop trigger callback
    -- The entry keeps the trigger, which is let go when it settles the stop.
    let (state, _) := state.commit trigger .redirect (some (.settle number trigger))
    (state.tell .info ("Stopping task " ++ entry.name), true)
  | _, _ => (state, false)

def stopNamed (state : State) (callback : Work) : List String → State × Nat
  | [] => (state, 0)
  | name :: rest =>
    match state.find? name with
    | none => state.stopNamed callback rest
    | some number =>
      let (state, stopped) := state.stopChain number callback
      let (state, count) := state.stopNamed callback rest
      (state, (if stopped then 1 else 0) + count)

def endChain (state : State) (number trigger : Nat) : State × Option Work :=
  (state.updateEntry number fun entry => entry.release trigger,
    (state.entry number).stopCallback? trigger)

def callbackFrames (number : Nat) (callback : Option Work) (args : List Value) : List Frame :=
  (callback.map fun work => Frame.callback number work args).toList

/-! ### Firing and settling -/

def fire (state : State) (number trigger : Nat) (args : List Value) : State × Move :=
  match state.now with
  | .error fault => (state, .fail fault.failure)
  | .ok now =>
    let entry := state.entry number
    let state := state.updateEntry number fun entry => entry.noteRun now
    (state.tell .info ("Running task " ++ entry.name),
      .go [.call entry.work args, .fired number trigger args entry.mode entry.work])

def runReport (name : String) (due : Option DateTime) (work : Work) (args : List Value)
    (failure : Failure) : Report where
  message := "Error: task " ++ name ++ " raised " ++ failure.literal ++ " (when=" ++
    timeText DateTime.iso due ++ ", args=" ++ argsLiteral args ++ ")"
  due := due
  work := work
  args := args
  cause := some failure

/-- The arguments of the run after one with the given outcome. -/
def nextArgs (mode : Mode) (args : List Value) : Signal → List Value
  | .error _ => args
  | .ok value =>
    match mode with
    | .chain => args
    | .iterative => asArgs value

/-- The end of a run: the trigger arms the next one if its chain goes on, and settles it otherwise.
Errors are reported before a callback is called. -/
def endRun (state : State) (number trigger : Nat) (args : List Value) (mode : Mode) (work : Work)
    (outcome : Signal) : State × Move :=
  let due := (state.trigger trigger).due
  let failed : Option Report :=
    match outcome with
    | .ok _ => none
    | .error failure => some (runReport (state.entry number).name due work args failure)
  let state :=
    match failed with
    | none => state
    | some report => state.countError number report
  let next := nextArgs mode args outcome
  let entry := state.entry number
  -- A task that was stopped, and perhaps started anew, is no longer this trigger's to arm.
  if entry.isRunning ∧ entry.trigger = some trigger then
    match state.arm number next due with
    | (state, .error failure) => (state, .fail failure)
    | (state, .ok unarmed) => (state, .go (reportFrames failed ++ reportFrames unarmed))
  else
    let (state, callback) := state.endChain number trigger
    (state, .go (reportFrames failed ++ callbackFrames number callback next))

/-- The end of a chain whose trigger was stopped before it fired. -/
def settle (state : State) (number trigger : Nat) (args : List Value) : State × Move :=
  let (state, callback) := state.endChain number trigger
  (state, .go (callbackFrames number callback args))

def abandonChain (state : State) (number trigger : Nat) (report : Report) :
    State × List Frame :=
  let entry := state.entry number
  let state :=
    if entry.trigger = some trigger then state.breakOff number report
    else state.countError number report
  -- A stop that was issued against the trigger is settled all the same.
  let state := state.updateEntry number fun entry => entry.dropStop trigger
  (state, .report report :: callbackFrames number (entry.stopCallback? trigger) report.args)

def complain (state : State) (trigger : Nat) (target : Work) (stage : String)
    (failure : Failure) : State × Move :=
  let failing := state.trigger trigger
  let report := triggerReport failing target stage failure
  let text := "Error sink for trigger " ++ failing.name ++ " failed; original error: " ++
    report.message
  match failing.errors with
  | .log => (state.tell .error report.message, .give .null)
  | .sink sink =>
    let (state, frames) := state.sinkFrames sink report text
    (state, .go frames)
  | .entry number =>
    let (state, frames) := state.abandonChain number trigger report
    -- The frames are the sink of this trigger: whatever fails in them goes to the log.
    (state, .go (frames ++ [.sunk text]))

def tellReport (state : State) (report : Report) : State × Move :=
  let state := state.tell .error report.message
  match state.setting.sink with
  | none => (state, .give .null)
  | some sink =>
    let (state, frames) := state.sinkFrames sink report
      ("Error sink failed while reporting: " ++ report.message)
    (state, .go frames)

def countCallbackFailure (state : State) (number : Nat) (work : Work) (args : List Value)
    (failure : Failure) : State × Move :=
  let report : Report := {
    message := "Error: stop callback for task " ++ (state.entry number).name ++ " raised " ++
      failure.literal ++ " (args=" ++ argsLiteral args ++ ")"
    due := none
    work
    args
    cause := some failure }
  (state.countError number report, .go [.report report])

def callBack (state : State) (number : Nat) (work : Work) (args : List Value) : State × Move :=
  (state.tell .info ("Task " ++ (state.entry number).name ++ " stopped; running stop callback"),
    .go [.call work args, .calledBack number work args])

/-- The countdown of a trigger: it proceeds if it is due and undecided, and waits if it is not due.
A time that cannot be waited for is a failure, unless the trigger was decided before. -/
def countdown (state : State) (trigger : Nat) : State × Move :=
  let waiting := state.trigger trigger
  match untilDue state.clock waiting.due state.setting.home with
  | .error fault =>
    match state.commit trigger .cancel none with
    | (state, true) => state.complain trigger waiting.work "waiting for" fault.failure
    -- Somebody else decided first, and their decision stands.
    | (state, false) => state.dispatch trigger
  | .ok remaining =>
    if remaining ≤ 0 then (state.commit trigger .proceed none).1.dispatch trigger
    else state.awaitDecision trigger remaining

end State

end Timetable
