import Timetable.Config.Target
import Timetable.Cron
import Timetable.Path
import Timetable.Text.LowerCase
import Timetable.Work
import Timetable.Zone.Named

/-! Configurations: a zone and a list of tasks, read from a document.

What is checked first is told first: the keys of a mapping, then its entries in a fixed order.
-/

set_option autoImplicit false

namespace Timetable

inductive ConfigError where
  | missing (path : String)
  | broken (path : String)
  | topLevelNotMapping
  | unknownTopLevelKeys (keys : List Value)
  | defaultsNotMapping
  | unknownDefaults (keys : List Value)
  | zoneNotText
  | unknownZone (name path : String)
  | noZone (fault : Fault)
  | noTasks
  | repeatedName (name : String)
  | notMapping (path : String)
  | unknownKeys (keys : List Value) (path : String)
  | noText (path : String)
  | notTruth (path : String)
  | unknownMode (name path : String)
  | notOneSchedule (path : String)
  | rule (error : RuleError)
  /-- A rule cannot be described. -/
  | unwritableRule
  | cron (error : CronError)
  | target (error : TargetError) (path : String)
  | argsNotList (path : String)

def ConfigError.message : ConfigError → String
  | .missing path => "Error: Config file not found: " ++ path
  | .broken path => "Error: Failed to parse YAML in " ++ path
  | .topLevelNotMapping => "Error: Top-level config must be a mapping."
  | .unknownTopLevelKeys keys =>
    "Error: Unknown top-level keys: " ++ (Value.list keys).literal ++ "."
  | .defaultsNotMapping => "Error: defaults must be a mapping."
  | .unknownDefaults keys => "Error: Unknown keys in defaults: " ++ (Value.list keys).literal ++ "."
  | .zoneNotText => "Error: defaults.timezone must be a timezone string."
  | .noZone fault => fault.failure.message
  | .unknownZone name path => "Error: Invalid timezone \"" ++ name ++ "\" at " ++ path ++ "."
  | .noTasks => "Error: tasks must be a non-empty list."
  | .repeatedName name => "Error: Duplicate task name \"" ++ name ++ "\"."
  | .notMapping path => "Error: " ++ path ++ " must be a mapping."
  | .unknownKeys keys path =>
    "Error: Unknown keys in " ++ path ++ ": " ++ (Value.list keys).literal ++ "."
  | .noText path => "Error: " ++ path ++ " must be a non-empty string."
  | .notTruth path => "Error: " ++ path ++ " must be true or false."
  | .unknownMode name path =>
    "Error: " ++ path ++ " must be one of " ++
      (Value.list (Mode.all.map fun mode => .text mode.name)).literal ++ ", got \"" ++ name ++ "\"."
  | .notOneSchedule path => "Error: " ++ path ++ " needs exactly one of \"rule\" or \"cron\"."
  | .rule error => error.message
  | .unwritableRule => Failure.unwritable.text
  | .cron error => error.message
  | .target error path => error.message path
  | .argsNotList path => "Error: " ++ path ++ ".args must be a list."

def ConfigError.breach? : ConfigError → Option Failure
  | .noZone fault => some fault.failure
  | .unknownTopLevelKeys keys | .unknownDefaults keys | .unknownKeys keys _ =>
    (Value.list keys).breach?
  | .rule error => error.breach?
  | .unwritableRule => some .unwritable
  | .cron error => error.breach?
  | _ => none

def ConfigError.failure (error : ConfigError) : Failure :=
  error.breach?.getD ⟨"ConfigError", error.message⟩

structure ConfiguredTask where
  name : String
  enabled : Bool
  rule : Rule
  source : String
  target : String
  called : Library.Function
  args : List Value
  mode : Mode

structure Config where
  zone : Zone
  zoneName : String
  tasks : List ConfiguredTask

namespace Config

/-! ### Entries -/

def truthOf (value : Value) (path : String) (default : Bool) : Except ConfigError Bool :=
  match value with
  | .null => .ok default
  | .bool b => .ok b
  | _ => .error (.notTruth path)

def textOf (value : Value) (path : String) : Except ConfigError String :=
  match value with
  | .text s =>
    let stripped := Text.strip s.toList
    if stripped.isEmpty then .error (.noText path) else .ok (String.ofList stripped)
  | _ => .error (.noText path)

def modeOf (value : Value) (path : String) (default : Mode) : Except ConfigError Mode :=
  match value with
  | .null => .ok default
  | value =>
    match textOf value path with
    | .error error => .error error
    | .ok text =>
      let name := String.ofList (Text.lower text.toList)
      match Mode.ofName? name with
      | some mode => .ok mode
      | none => .error (.unknownMode name path)

def zoneNamed (name path : String) : Except ConfigError NamedZone :=
  match Zone.ofName? name with
  | some zone => .ok zone
  | none => .error (.unknownZone name path)

def functionOf (value : Value) (path : String) : Except ConfigError Library.Function :=
  match textOf value path with
  | .error error => .error error
  | .ok target => (Target.resolve target).mapError fun error => .target error path

/-! ### Keys -/

/-- Whether a key comes before another one, or the two have the same place. -/
def keyBefore (left right : Value) : Bool :=
  (Value.order left right).isLE

def unknownKeys (known : List String) (entries : List (Value × Value)) : List Value :=
  let unknown := (entries.map Prod.fst).filter fun key =>
    !known.any fun name => Value.sameKey key (.text name)
  unknown.mergeSort keyBefore

def entryOf (entries : List (Value × Value)) (key : String) : Value :=
  (Value.entry? entries key).getD .null

/-! ### Tasks -/

def schedule (entries : List (Value × Value)) (path : String) :
    Except ConfigError (Rule × String) :=
  match Value.entry? entries "rule", Value.entry? entries "cron" with
  -- A key that is there counts, whatever its value.
  | some raw, none =>
    match Rule.ofValue raw (path ++ ".rule") with
    | .error error => .error (.rule error)
    | .ok rule =>
      if rule.isWritable then .ok (rule, "rule: " ++ rule.describe) else .error .unwritableRule
  | none, some raw =>
    match textOf raw (path ++ ".cron") with
    | .error error => .error error
    | .ok expression =>
      match Cron.rule expression with
      | .error error => .error (.cron error)
      | .ok rule => .ok (rule, "cron: " ++ expression)
  | _, _ => .error (.notOneSchedule path)

def taskArgs (value : Value) (path : String) : Except ConfigError (List Value) :=
  match value with
  | .null => .ok []
  | .list args => .ok args
  | _ => .error (.argsNotList path)

def taskKeys : List String :=
  ["name", "enabled", "rule", "cron", "target", "args", "mode"]

def taskOfEntries (entries : List (Value × Value)) (path : String) (defaultMode : Mode) :
    Except ConfigError ConfiguredTask := do
  -- The keys are checked in this order, and the first error is told.
  let unknown := unknownKeys taskKeys entries
  if !unknown.isEmpty then throw (.unknownKeys unknown path)
  let name ← textOf (entryOf entries "name") (path ++ ".name")
  let enabled ← truthOf (entryOf entries "enabled") (path ++ ".enabled") true
  let (rule, source) ← schedule entries path
  let target ← textOf (entryOf entries "target") (path ++ ".target")
  let called ← functionOf (.text target) (path ++ ".target")
  let args ← taskArgs (entryOf entries "args") path
  let mode ← modeOf (entryOf entries "mode") (path ++ ".mode") defaultMode
  return { name, enabled, rule, source, target, called, args, mode }

def taskOf (raw : Value) (path : String) (defaultMode : Mode) : Except ConfigError ConfiguredTask :=
  match raw with
  | .mapping entries => taskOfEntries entries path defaultMode
  | _ => .error (.notMapping path)

/-- The tasks of a list from the one numbered `index` on, whose names differ from each other and
from those in `seen`. -/
def tasksFrom (defaultMode : Mode) (seen : List String) (index : Nat) :
    List Value → Except ConfigError (List ConfiguredTask)
  | [] => .ok []
  | raw :: rest =>
    match taskOf raw ("tasks[" ++ Text.ofNat index ++ "]") defaultMode with
    | .error error => .error error
    | .ok spec =>
      if seen.contains spec.name then .error (.repeatedName spec.name)
      else
        (tasksFrom defaultMode (spec.name :: seen) (index + 1) rest).map (spec :: ·)

/-! ### Documents -/

def zoneOf (clock : Instant) (value : Value) (machine : MachineZone := .universal) :
    Except ConfigError (Zone × String) :=
  match value with
  | .null =>
    match Zone.ofMachine clock machine with
    | .ok zone => .ok (zone, machine.name)
    | .error fault => .error (.noZone fault)
  | .text name => (zoneNamed name "defaults.timezone").map fun zone => (.named zone, name)
  | _ => .error .zoneNotText

def mappingOf (value : Value) (error : ConfigError) : Except ConfigError (List (Value × Value)) :=
  if value.isVoid then .ok []
  else
    match value with
    | .mapping entries => .ok entries
    | _ => .error error

def ofDocument (clock : Instant) (document : Value) (machine : MachineZone := .universal) :
    Except ConfigError Config := do
  let entries ← mappingOf document .topLevelNotMapping
  let unknown := unknownKeys ["version", "defaults", "tasks"] entries
  if !unknown.isEmpty then throw (.unknownTopLevelKeys unknown)
  let defaults ← mappingOf (entryOf entries "defaults") .defaultsNotMapping
  let unknown := unknownKeys ["timezone", "mode"] defaults
  if !unknown.isEmpty then throw (.unknownDefaults unknown)
  let (zone, zoneName) ← zoneOf clock (entryOf defaults "timezone") machine
  let defaultMode ← modeOf (entryOf defaults "mode") "defaults.mode" .chain
  match entryOf entries "tasks" with
  | .list (first :: rest) =>
    let tasks ← tasksFrom defaultMode [] 0 (first :: rest)
    return { zone, zoneName, tasks }
  | _ => throw .noTasks

inductive Source where
  | document (value : Value)
  | broken
  | directory
  | missing
  | tooLong

def ofSource (clock : Instant) (source : Source) (path : String)
    (machine : MachineZone := .universal) : Except Failure Config :=
  match source with
  | .document value => (ofDocument clock value machine).mapError ConfigError.failure
  | .broken => .error (ConfigError.failure (.broken path))
  | .directory => .error (Path.isDirectory path)
  | .missing => .error (ConfigError.failure (.missing path))
  | .tooLong => .error (Path.tooLong path)

/-! ### Selections -/

inductive SelectionError where
  | unknownTask (name : String)
  | noneEnabled

def SelectionError.failure : SelectionError → Failure
  | .unknownTask name => ⟨"CadenceError", "Unknown task \"" ++ name ++ "\"."⟩
  | .noneEnabled => ⟨"CadenceError", "No enabled tasks selected."⟩

/-- The tasks of a name, or all of them without one; only enabled ones, unless disabled ones are
asked for too. -/
def select (tasks : List ConfiguredTask) (name : String) (includesDisabled : Bool) :
    Except SelectionError (List ConfiguredTask) :=
  let named :=
    if name.isEmpty then tasks else tasks.filter fun task => decide (task.name = name)
  if !name.isEmpty && named.isEmpty then .error (.unknownTask name)
  else if includesDisabled then .ok named
  else
    let enabled := named.filter ConfiguredTask.enabled
    if enabled.isEmpty then .error .noneEnabled else .ok enabled

end Config

end Timetable
