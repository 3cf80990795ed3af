import Timetable.Machine.State

/-! The registry of tasks: tasks are added and removed, and get other rules and other work. -/

set_option autoImplicit false

namespace Timetable

namespace State

def addTask (state : State) (name : String) (rule : Rule) (work : Work) : State × Bool :=
  match state.find? name with
  | some _ =>
    (state.tell .info ("Task " ++ name ++ " already registered; add ignored."), false)
  | none =>
    (({ state with
        entries := state.entries.add (.new name rule work)
        registered := state.registered ++ [state.entries.size] } : State).tell .info
      ("Added task " ++ name ++ " (" ++ rule.describe ++ ")"), true)

def removeTask (state : State) (name : String) : State × Bool :=
  match state.find? name with
  | none => (state, false)
  | some number =>
    if (state.entry number).isRunning then
      (state.tell .warning ("Task " ++ name ++ " is running; stop it before removing."), false)
    else
      -- The entry stays in the store: a trigger that still settles goes on to write to it.
      let kept := state.registered.filter fun other => decide (other ≠ number)
      (({ state with registered := kept } : State).tell .info ("Removed task " ++ name), true)

def updateRule (state : State) (number : Nat) (rule : Rule) : State :=
  let name := (state.entry number).name
  (state.updateEntry number fun entry => { entry with rule }).tell .info
    ("Updated rule for task " ++ name ++ " (" ++ rule.describe ++ ")")

def updateWork (state : State) (number : Nat) (work : Work) : State :=
  let name := (state.entry number).name
  (state.updateEntry number fun entry => { entry with work }).tell .info
    ("Updated function for task " ++ name ++ " (" ++ work.describe ++ ")")

def names (state : State) : List String :=
  state.registered.map fun number => (state.entry number).name

end State

end Timetable
