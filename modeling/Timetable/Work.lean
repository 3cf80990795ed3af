import Timetable.Operation

/-! What a trigger or a task calls, and how it is described. -/

set_option autoImplicit false

namespace Timetable

structure Attributes where
  qualifiedName : Option String
  name : Option String
  moduleName : Option String
  literal : String

/-- The description of a thing that can be called: its qualified or else its plain name, after its
module; without a name, its literal. -/
def Attributes.describe (attributes : Attributes) : String :=
  let chosen :=
    match attributes.qualifiedName with
    | none | some "" => attributes.name
    | some name => some name
  match chosen, attributes.moduleName with
  | none, _ => attributes.literal
  | some name, none | some name, some "" => name
  | some name, some moduleName => moduleName ++ "." ++ name

inductive Work where
  /-- A script; `id` tells apart scripts that were handed over at different times. -/
  | script (id : Nat) (name : String) (actions : List Action)
  | library (called : Library.Function)
  | plain (value : Value)
  /-- One firing of a task, by a trigger. -/
  | fire (entry trigger : Nat)
  /-- The end of a stop of a task, by the trigger that the stop was issued against. -/
  | settle (entry trigger : Nat)
  /-- A new start of a task, with the given arguments or else those that were pending. -/
  | resume (task : String) (mode : Mode) (args : List Value)
  | nothing
  /-- A note of the arguments that were pending. -/
  | logPending (task : String)

namespace Work

instance : Inhabited Work := ⟨.nothing⟩

def attributes : Work → Attributes
  | .script _ name _ => ⟨some name, some name, some "tasks", name⟩
  | .library called => ⟨some called.name, some called.name, some "tasklib", called.name⟩
  | .plain value => ⟨none, none, none, value.literal⟩
  | .fire _ _ => ⟨some "Scheduler._arm.<locals>.fire", some "fire", some "cadence", "fire"⟩
  | .settle _ _ => ⟨none, none, none, "settle"⟩
  | .resume _ _ _ =>
    ⟨some "Scheduler.restart.<locals>.resume", some "resume", some "cadence", "resume"⟩
  | .nothing => ⟨some "_noop", some "_noop", some "cadence", "nothing"⟩
  | .logPending _ => ⟨none, none, none, "log pending"⟩

def describe (work : Work) : String :=
  work.attributes.describe

def triggerName (work : Work) : String :=
  work.attributes.name.getD "trigger"

def canBeCalled : Work → Bool
  | .plain _ => false
  | _ => true

def literal (work : Work) : String :=
  work.attributes.literal

end Work

/-- The record of an error: what is told of it, the time at which the call was due, the call, and
what caused the error. -/
structure Report where
  message : String
  due : Option DateTime
  work : Work
  args : List Value
  cause : Option Failure
  deriving Inhabited

def argsLiteral (args : List Value) : String :=
  (Value.tuple args).literal

/-- The arguments that a result becomes: the items of a tuple, or the result alone. -/
def asArgs : Value → List Value
  | .tuple items => items
  | value => [value]

end Timetable
