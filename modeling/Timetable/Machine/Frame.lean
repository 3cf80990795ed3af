import Timetable.Entry

/-! The frames of the machine.

A thread is a stack of frames. The top frame is resumed with a signal: the result of what ran above
it, or a failure. It answers with a move: it gives or fails in its turn, puts frames in its place,
or makes the thread wait.
-/

set_option autoImplicit false

namespace Timetable

abbrev Signal := Except Failure Value

inductive Pause where
  | decision (trigger : Nat)
  | ended (trigger : Nat)
  | sleep
  deriving DecidableEq, Repr

/-- What is left to do at one level of a thread. Frames that are not said to look at failures pass
them on. -/
inductive Frame where
  | countdown (trigger : Nat)
  | waited (trigger : Nat)
  /-- The trigger has called its target; failures are reported. -/
  | dispatched (trigger : Nat) (target : Work)
  /-- A sink of errors has been called; its failures go to the log under the given text. -/
  | sunk (text : String)
  | call (work : Work) (args : List Value)
  /-- The actions that are left of a script; `turn` is the number of this call of it. -/
  | script (name : String) (turn : Nat) (args : List Value) (actions : List Action)
  | woke (name : String)
  | perform (operation : Operation)
  /-- A script has performed an operation; the outcome is recorded, also a failure. -/
  | inner (operation : String)
  /-- Gives a value once what runs above is done. -/
  | give (value : Value)
  /-- A task has been called by a trigger. Failures are reported, and the chain goes on. -/
  | fired (entry trigger : Nat) (args : List Value) (mode : Mode) (work : Work)
  | report (report : Report)
  | callback (entry : Nat) (work : Work) (args : List Value)
  /-- The callback of a stop has been called; failures are reported. -/
  | calledBack (entry : Nat) (work : Work) (args : List Value)
  /-- The threads of triggers that a shutdown has yet to join, and the number of stopped tasks. -/
  | joining (triggers : List Nat) (timeout : Option Int) (stopped : Nat)
  | interrupted

inductive Move where
  /-- Puts frames in the place of the frame, and resumes the topmost one with a signal. -/
  | resume (frames : List Frame) (signal : Signal)
  /-- Puts frames in the place of the frame, and waits, at most until a given time. -/
  | wait (frames : List Frame) (pause : Pause) (deadline : Option Instant)

namespace Move

def give (value : Value) : Move :=
  .resume [] (.ok value)

def fail (failure : Failure) : Move :=
  .resume [] (.error failure)

def go (frames : List Frame) : Move :=
  .resume frames (.ok .null)

end Move

end Timetable
