import Timetable.Cron
import Timetable.Machine.Chain
import Timetable.Machine.Registry

/-! The steps of a machine.

While a thread runs, a step resumes its top frame. When none runs, the first thread of the queue is
taken. When the queue is empty too, the main program goes on if what it waits for has come; else the
clock moves to the earliest deadline.
-/

set_option autoImplicit false

namespace Timetable

namespace State

/-! ### Calls -/

def callLibrary (state : State) (agent : Agent) (called : Library.Function)
    (args : List Value) : State × Move :=
  let state :=
    match called with
    | .box => state
    | _ => state.record (.call state.elapsed called.name args)
  match Library.sleepOf called args with
  | .error failure => (state, .fail failure)
  | .ok (some micros) => (state, state.sleep agent micros [.give (.tuple args)])
  | .ok none => (state, .resume [] (Library.result called args))

def call (state : State) (agent : Agent) (work : Work) (args : List Value) : State × Move :=
  match work with
  | .script id name actions =>
    let (state, turn) := (state.record (.call state.elapsed name args)).takeTurn id
    (state, .go [.script name turn args actions])
  | .library called => state.callLibrary agent called args
  | .plain value =>
    (state, .fail ⟨"TypeError", "'" ++ value.kindName ++ "' object is not callable"⟩)
  | .fire entry trigger => state.fire entry trigger args
  | .settle entry trigger => state.settle entry trigger args
  | .resume name mode given => state.startNamed name mode (if given.isEmpty then args else given)
  | .nothing => (state, .give .null)
  | .logPending name =>
    (state.tell .info ("Task " ++ name ++ " stopped before its next run (pending args=" ++
      argsLiteral args ++ ")"), .give .null)

def increased (args : List Value) (difference : Value) : Signal :=
  match args with
  | [] => .error ⟨"IndexError", "tuple index out of range"⟩
  | first :: _ => Library.sum first difference

def act (state : State) (agent : Agent) (name : String) (turn : Nat) (args : List Value) :
    List Action → Move
  | [] => .give .null
  | action :: rest =>
    let further : Frame := .script name turn args rest
    match action with
    | .sleep micros => state.sleep agent micros [.woke name, further]
    | .raise failure => .fail failure
    | .raiseFirst calls failure => if turn ≤ calls then .fail failure else .go [further]
    | .giveBack value => .give value
    | .increase difference => .resume [] (increased args difference)
    | .rotate => .give (.tuple (args.drop 1 ++ args.take 1))
    | .perform operation => .go [.perform operation, .inner operation.name, further]

/-! ### Operations -/

def onTrigger (state : State) (id : String) (change : Nat → State × Move) : State × Move :=
  match state.labelled? id with
  | some trigger => change trigger
  | none => (state, .fail (.unknownId id))

def onTask (state : State) (name : String) (absent : Value) (change : Nat → State × Move) :
    State × Move :=
  match state.find? name with
  | some number => change number
  | none => (state, .give absent)

def makeFor (state : State) (due : Option DateTime) (fn : Callable) (args : List Value)
    (sink : Option (List Action)) (name : String) : State :=
  let (state, work) := state.handOver fn
  match sink with
  | none => state.makeTrigger due work args .log name
  | some actions =>
    let sink : Sink := ⟨state.turns.size, actions⟩
    { state with turns := state.turns.add 0 }.makeTrigger due work args (.sink sink) name

/-- The names of triggers with one more. A name that is in use keeps its place and stands for the
new trigger. -/
def relabel (id : String) (trigger : Nat) : List (String × Nat) → List (String × Nat)
  | [] => [(id, trigger)]
  | (other, labelled) :: rest =>
    if other = id then (id, trigger) :: rest else (other, labelled) :: relabel id trigger rest

def label (state : State) (id : String) (trigger : Nat) : State :=
  { state with labels := relabel id trigger state.labels }

def notCallable (name : String) (work : Work) : Failure :=
  ⟨"TypeError", "task " ++ name ++ " needs a callable, got " ++ work.literal⟩

def giveFlag (result : State × Bool) : State × Move :=
  (result.1, .give (.bool result.2))

/-- The callback that a stop was given: something empty counts as none. -/
def callbackOf (state : State) : Option Callable → State × Work
  | none => (state, .nothing)
  | some (.plain value) => (state, if value.isVoid then .nothing else .plain value)
  | some callable => state.handOver callable

def shutdown (state : State) (callback : Work) (timeout : Option Int) : State × Move :=
  -- A stopped task keeps its trigger until the stop settles, so those are joined too.
  let triggers := state.registered.filterMap fun number => (state.entry number).trigger
  let (state, stopped) := state.stopNamed callback state.names
  (state, .go [.joining triggers timeout stopped])

def perform (state : State) (agent : Agent) (operation : Operation) : State × Move :=
  match operation with
  | .create id due fn args sink name =>
    let trigger := state.triggers.size
    let state := (state.makeFor due fn args sink name).label id trigger
    (state, .give (.text (state.trigger trigger).name))
  | .schedule id due fn args sink =>
    let trigger := state.triggers.size
    match (state.makeFor due fn args sink "").startThread trigger with
    -- Only a trigger whose thread has started gets a name to be found by.
    | (state, .ok ()) => (state.label id trigger, .give (.text (state.trigger trigger).name))
    | (state, .error failure) => (state, .fail failure)
  | .startTrigger id => state.onTrigger id fun trigger =>
    match state.startThread trigger with
    | (state, .ok ()) => (state, .give (.bool true))
    | (state, .error failure) => (state, .fail failure)
  | .cancel id => state.onTrigger id fun trigger => giveFlag (state.commit trigger .cancel none)
  | .redirect id fn => state.onTrigger id fun trigger =>
    let (state, work) := state.handOver fn
    giveFlag (state.commit trigger .redirect (some work))
  | .join id timeout => state.onTrigger id fun trigger =>
    (state, state.join agent trigger timeout [])
  | .add name rule fn =>
    match Rule.ofLoose rule (name ++ ".rule") with
    | .error error => (state, .fail error.failure)
    | .ok rule =>
      let (state, work) := state.handOver fn
      if work.canBeCalled then giveFlag (state.addTask name rule work)
      else (state, .fail (notCallable name work))
  | .remove name => giveFlag (state.removeTask name)
  | .updateRule name rule => state.onTask name (.bool false) fun number =>
    match Rule.ofLoose rule (name ++ ".rule") with
    | .error error => (state, .fail error.failure)
    | .ok rule => (state.updateRule number rule, .give (.bool true))
  | .updateFn name fn => state.onTask name (.bool false) fun number =>
    let (state, work) := state.handOver fn
    if work.canBeCalled then (state.updateWork number work, .give (.bool true))
    else (state, .fail (notCallable name work))
  | .start name mode args => state.startNamed name mode args
  | .restart name args => state.onTask name (.bool false) fun number =>
    -- The new start is the callback of the stop; it finds its task by name once the stop settles.
    let mode := (state.entry number).mode
    match state.stopChain number (.resume name mode args) with
    | (state, true) => (state, .give (.bool true))
    | (state, false) => state.startChain number mode args
  | .stop name callback =>
    let (state, callback) := state.callbackOf callback
    let (state, count) :=
      match name with
      | some name => state.stopNamed callback [name]
      | none => state.stopNamed callback state.names
    (state, .give (.int count))
  | .status name => state.onTask name .null fun number =>
    (state, .give (.text (state.entry number).status.name))
  | .names => (state, .give (.list (state.names.map .text)))
  | .inspect (some name) => state.onTask name .null fun number =>
    (state, .give (state.snapshot (state.entry number)).toValue)
  | .inspect none =>
    (state, .give (Value.ofEntries (state.snapshots.map fun snapshot =>
      (.text snapshot.name, snapshot.toValue))))
  | .shutdown callback timeout =>
    let (state, callback) := state.callbackOf callback
    state.shutdown callback timeout
  | .advance micros => (state, state.sleep agent micros [.give (.bool true)])
  | .failStarts count => ({ state with failingStarts := count }, .give (.bool true))

/-! ### Frames -/

def resume (state : State) (agent : Agent) (value : Value) : Frame → State × Move
  | .countdown trigger => state.countdown trigger
  | .waited trigger =>
    if (state.trigger trigger).decision.isCommitted then state.dispatch trigger
    else state.countdown trigger
  | .dispatched _ _ | .sunk _ | .calledBack _ _ _ => (state, .give .null)
  | .call work args => state.call agent work args
  | .script name turn args actions => (state, state.act agent name turn args actions)
  | .woke name => (state.record (.woke state.elapsed name), .give .null)
  | .perform operation => state.perform agent operation
  | .inner operation =>
    (state.record (.inner state.elapsed operation (.ok value)), .give .null)
  | .give given => (state, .give given)
  | .fired entry trigger args mode work =>
    state.endRun entry trigger args mode work (.ok value)
  | .report report => state.tellReport report
  | .callback entry work args => state.callBack entry work args
  | .joining [] _ stopped =>
    (state.tell .info ("Scheduler shut down (" ++ Text.ofNat stopped ++ " task(s) stopped)."),
      .give (.int stopped))
  | .joining (trigger :: rest) timeout stopped =>
    (state, state.join agent trigger timeout [.joining rest timeout stopped])
  | .interrupted => (state, .fail .interrupt)

/-- Resumes a frame after a failure. Only frames that report or record failures look at it. A request
to leave is recorded too, where a script has performed an operation, but no frame reports it. -/
def handle (state : State) (failure : Failure) (frame : Frame) : State × Move :=
  if failure.leaves then
    match frame with
    | .inner operation =>
      -- A run that is given up leaves no record of the operations it cuts off.
      if failure = .unfinished then (state, .fail failure)
      else (state.record (.inner state.elapsed operation (.error failure)), .give .null)
    | _ => (state, .fail failure)
  else
    match frame with
    | .dispatched trigger target => state.complain trigger target "running" failure
    | .sunk text => (state.tell .error text, .give .null)
    | .inner operation =>
      (state.record (.inner state.elapsed operation (.error failure)), .give .null)
    | .fired entry trigger args mode work =>
      state.endRun entry trigger args mode work (.error failure)
    | .calledBack entry work args => state.countCallbackFailure entry work args failure
    | _ => (state, .fail failure)

/-! ### Threads -/

def suspend (state : State) (agent : Agent) (stack : List Frame) (pause : Pause)
    (deadline : Option Instant) : State :=
  match agent with
  | .main => { state with active := none, main := .waiting stack pause deadline }
  | .thread trigger =>
    { state.updateTrigger trigger fun trigger => { trigger with thread := .suspended stack } with
      active := none
      waiting := state.waiting ++ [⟨trigger, pause, deadline⟩] }

/-- Ends a runner whose stack is empty. The failure of a thread is not told; those that join it go
on. -/
def finish (state : State) (agent : Agent) (signal : Signal) : State :=
  match agent with
  | .main => { state with active := none, main := .finished signal }
  | .thread trigger =>
    ({ state.updateTrigger trigger fun trigger => { trigger with thread := .ended } with
      active := none } : State).wake (.ended trigger)

def make (state : State) (agent : Agent) (rest : List Frame) : Move → State
  | .resume frames signal => { state with active := some ⟨agent, frames ++ rest, signal⟩ }
  | .wait frames pause deadline => state.suspend agent (frames ++ rest) pause deadline

def runFrame (state : State) (active : Active) : State :=
  match active.stack with
  | [] => state.finish active.agent active.signal
  | frame :: rest =>
    let (state, move) :=
      match active.signal with
      | .ok value => state.resume active.agent value frame
      | .error failure => state.handle failure frame
    state.make active.agent rest move

def activate (state : State) (trigger : Nat) : State :=
  match (state.trigger trigger).thread with
  | .suspended stack =>
    { state.updateTrigger trigger fun trigger => { trigger with thread := .running } with
      active := some ⟨.thread trigger, stack, .ok .null⟩ }
  | _ => state

def activateMain (state : State) (stack : List Frame) : State :=
  { state with active := some ⟨.main, stack, .ok .null⟩, main := .running }

/-- Of the threads that wait, the one with the earliest deadline, which is not after a limit; of
several, the one that began to wait first. -/
def earliest (limit : Option Instant) : List Waiter → Option (Instant × Waiter)
  | [] => none
  | waiter :: rest =>
    match waiter.deadline, earliest limit rest with
    | none, later => later
    | some deadline, none =>
      if limit.any (fun limit => decide (limit < deadline)) then none else some (deadline, waiter)
    | some deadline, some later =>
      if deadline ≤ later.1 then some (deadline, waiter) else some later

def passTime (state : State) : Option State :=
  match state.main with
  | .finished _ | .running => none
  | .waiting stack pause deadline =>
    if state.holds pause then some (state.activateMain stack)
    else
      -- A thread whose deadline is that of the main program goes before it.
      match earliest deadline state.waiting, deadline with
      | some (time, waiter), _ =>
        some { state with
          clock := max state.clock time
          ready := [waiter.thread]
          waiting := state.waiting.erase waiter }
      | none, some time =>
        -- A deadline that has passed does not set the clock back.
        let late := { state with clock := max state.clock time }
        some (late.activateMain stack)
      | none, none => none

def step (state : State) : Option State :=
  match state.active, state.ready with
  | some active, _ => some (state.runFrame active)
  | none, trigger :: rest => some (activate { state with ready := rest } trigger)
  | none, [] => state.passTime

def runUntil (stops : State → Bool) : Nat → State → State
  | 0, state => state
  | fuel + 1, state =>
    if stops state then state
    else
      match state.step with
      | none => state
      | some next => runUntil stops fuel next

def mainHasFinished (state : State) : Bool :=
  match state.active, state.main with
  | none, .finished _ => true
  | _, _ => false

def isQuiet (state : State) : Bool :=
  state.active.isNone && state.ready.isEmpty

end State

end Timetable
