import Timetable.Machine.State

/-! Triggers and their threads: starts, decisions, the countdown and the call.

A trigger waits until it is due, in pieces that are not too long, and then commits to proceed unless
it was decided otherwise. It makes at most one call, with its own arguments.
-/

set_option autoImplicit false

namespace Timetable

namespace State

/-- Moves the threads that wait for something to the end of the queue, in the order in which they
began to wait. -/
def wake (state : State) (pause : Pause) : State :=
  let (woken, rest) := state.waiting.partition fun waiter => decide (waiter.pause = pause)
  { state with ready := state.ready ++ woken.map Waiter.thread, waiting := rest }

def holds (state : State) : Pause → Bool
  | .decision trigger => (state.trigger trigger).decision.isCommitted
  | .ended trigger =>
    match (state.trigger trigger).thread with
    | .ended => true
    | _ => false
  | .sleep => false

def makeTrigger (state : State) (due : Option DateTime) (work : Work) (args : List Value)
    (errors : ErrorTarget) (name : String) : State :=
  { state with triggers := state.triggers.add {
      due, work, args, errors
      name := if name.isEmpty then work.triggerName else name
      decision := .undecided
      begun := false
      thread := .unstarted } }

/-- Starts the thread of a trigger. A start may be one of those that fail; any other is the only one
of its thread. -/
def startThread (state : State) (trigger : Nat) : State × Except Failure Unit :=
  let state := state.updateTrigger trigger fun trigger => { trigger with begun := true }
  -- The start counts as asked for, also where it fails.
  match state.failingStarts, (state.trigger trigger).thread with
  | failing + 1, _ =>
    ({ state with failingStarts := failing }, .error ⟨"RuntimeError", "can't start new thread"⟩)
  | 0, .unstarted =>
    let state := state.updateTrigger trigger fun started =>
      { started with thread := .suspended [.countdown trigger] }
    ({ state with ready := state.ready ++ [trigger] }, .ok ())
  | 0, _ => (state, .error ⟨"RuntimeError", "threads can only be started once"⟩)

/-- Commits the decision of a trigger unless it is committed, and tells whether this was the
commitment that counts. -/
def commit (state : State) (trigger : Nat) (outcome : Outcome) (callback : Option Work) :
    State × Bool :=
  let (decision, won) := (state.trigger trigger).decision.commit outcome callback
  if won then
    ((state.updateTrigger trigger fun committed => { committed with decision }).wake
      (.decision trigger), true)
  else (state, false)

def sinkFrames (state : State) (sink : Sink) (report : Report) (text : String) :
    State × List Frame :=
  let (state, turn) := (state.record (.sink state.elapsed report)).takeTurn sink.id
  (state, [.script "sink" turn [] sink.actions, .sunk text])

def triggerReport (trigger : Trigger) (target : Work) (stage : String) (failure : Failure) :
    Report where
  message := "Error: trigger " ++ trigger.name ++ " failed while " ++ stage ++ " " ++
    target.describe ++ " (when=" ++ timeText DateTime.iso trigger.due ++ ", args=" ++
    argsLiteral trigger.args ++ "): " ++ failure.message
  due := trigger.due
  work := target
  args := trigger.args
  cause := some failure

def dispatch (state : State) (trigger : Nat) : State × Move :=
  let decided := state.trigger trigger
  match decided.decision.outcome, decided.decision.callback with
  | some .proceed, _ =>
    (state, .go [.call decided.work decided.args, .dispatched trigger decided.work])
  | some .redirect, some target =>
    (state, .go [.call target decided.args, .dispatched trigger target])
  | _, _ =>
    -- A redirection without a target is as good as a cancellation.
    (state.tell .debug ("Trigger " ++ decided.name ++ " cancelled before " ++
      timeText (DateTime.textWith " ") decided.due), .give .null)

/-- Waits for a decision, for the time that is left or the longest wait. -/
def awaitDecision (state : State) (trigger : Nat) (remaining : Int) : State × Move :=
  let timeout := throughSeconds (min remaining state.setting.longestWait)
  let state :=
    if state.setting.tracesWaits then state.record (.wait state.elapsed (some timeout)) else state
  -- A decision that came first is not waited for.
  if (state.trigger trigger).decision.isCommitted then state.dispatch trigger
  else (state, .wait [.waited trigger] (.decision trigger) (some (state.clock + timeout)))

/-- Joins a thread: the wait for its end, unless it is over at once. -/
def join (state : State) (agent : Agent) (trigger : Nat) (timeout : Option Int)
    (frames : List Frame) : Move :=
  let joined := state.trigger trigger
  if joined.begun then
    match joined.thread with
    -- A start was asked for in vain.
    | .unstarted => .fail ⟨"RuntimeError", "cannot join thread before it is started"⟩
    | .ended => .go frames
    | _ =>
      if agent = .thread trigger then .fail ⟨"RuntimeError", "cannot join current thread"⟩
      else
        match timeout with
        | none => .wait frames (.ended trigger) none
        | some micros =>
          if micros ≤ 0 then .go frames
          else .wait frames (.ended trigger) (some (state.clock + micros))
  else .go frames

/-- Sleeps for a number of microseconds. A sleep of the main program that would reach the time of
the interrupt is cut short there. -/
def sleep (state : State) (agent : Agent) (micros : Int) (frames : List Frame) : Move :=
  let wakes := state.clock + micros
  match agent, state.setting.interruptAt with
  | .main, some interrupt =>
    if interrupt ≤ wakes then .wait [.interrupted] .sleep (some interrupt)
    else .wait frames .sleep (some wakes)
  | _, _ => .wait frames .sleep (some wakes)

end State

end Timetable
