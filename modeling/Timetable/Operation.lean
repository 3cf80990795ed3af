import Timetable.Library
import Timetable.Zone

/-! What a program does to triggers and tasks, and what the callables that it hands over do.

A callable follows a script. Since a script may hold operations, and an operation hands over
callables, the three are defined together. Durations are in microseconds.
-/

set_option autoImplicit false

namespace Timetable

/-- Whether the calls of a task all have the same arguments, or each hands its result to the
next. -/
inductive Mode where
  | chain
  | iterative
  deriving DecidableEq, Repr, Inhabited

def Mode.name : Mode → String
  | .chain => "chain"
  | .iterative => "iterative"

def Mode.all : List Mode := [.chain, .iterative]

def Mode.ofName? (name : String) : Option Mode :=
  all.find? fun mode => decide (mode.name = name)

mutual

inductive Action where
  | sleep (micros : Int)
  | raise (failure : Failure)
  /-- Raises on the first calls of the callable, up to a number of them. -/
  | raiseFirst (calls : Nat) (failure : Failure)
  | giveBack (value : Value)
  | increase (difference : Value)
  /-- Gives back the arguments with the first one moved to the end. -/
  | rotate
  | perform (operation : Operation)

inductive Callable where
  | script (name : String) (actions : List Action)
  | library (function : Library.Function)
  | plain (value : Value)

inductive Operation where
  /-- Makes a trigger. Errors go to the log, or to a sink that runs the given actions. -/
  | create (id : String) (due : Option DateTime) (fn : Callable) (args : List Value)
      (sink : Option (List Action)) (name : String)
  /-- Makes a trigger and starts it. -/
  | schedule (id : String) (due : Option DateTime) (fn : Callable) (args : List Value)
      (sink : Option (List Action))
  | startTrigger (id : String)
  | cancel (id : String)
  | redirect (id : String) (fn : Callable)
  | join (id : String) (timeout : Option Int)
  | add (name : String) (rule : Value) (fn : Callable)
  | remove (name : String)
  | updateRule (name : String) (rule : Value)
  | updateFn (name : String) (fn : Callable)
  | start (name : String) (mode : Mode) (args : List Value)
  | restart (name : String) (args : List Value)
  | stop (name : Option String) (callback : Option Callable)
  | status (name : String)
  | names
  | inspect (name : Option String)
  | shutdown (callback : Option Callable) (timeout : Option Int)
  | advance (micros : Int)
  | failStarts (count : Nat)

end

instance : Inhabited Action := ⟨.rotate⟩

instance : Inhabited Callable := ⟨.plain .null⟩

instance : Inhabited Operation := ⟨.names⟩

def Operation.name : Operation → String
  | .create .. => "create"
  | .schedule .. => "at"
  | .startTrigger _ => "start"
  | .cancel _ => "cancel"
  | .redirect .. => "redirect"
  | .join .. => "join"
  | .add .. => "add"
  | .remove _ => "remove"
  | .updateRule .. => "update_rule"
  | .updateFn .. => "update_fn"
  | .start _ .chain _ => "start"
  | .start _ .iterative _ => "start_iterative"
  | .restart .. => "restart"
  | .stop .. => "stop"
  | .status _ => "status"
  | .names => "names"
  | .inspect _ => "inspect"
  | .shutdown .. => "shutdown"
  | .advance _ => "advance"
  | .failStarts _ => "fail_start"

def Operation.shutdownTimeout : Int := 5000000

end Timetable
