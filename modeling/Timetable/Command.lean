import Timetable.Command.Arguments
import Timetable.Daemon
import Timetable.Path

/-! The commands: checking a configuration, previewing runs, running tasks once, and the daemon. -/

set_option autoImplicit false

namespace Timetable

structure Console where
  printed : List String
  state : State

namespace Console

def print (console : Console) (line : String) : Console :=
  { console with printed := line :: console.printed }

def printAll (console : Console) (lines : List String) : Console :=
  lines.foldl print console

def tell (console : Console) (level : Level) (line : String) : Console :=
  { console with state := console.state.tell level line }

def lines (console : Console) : List String :=
  console.printed.reverse

end Console

namespace Command

abbrev Step (α : Type) := Console × Except Failure α

def defaultPath : String := "cadence.yaml"

/-! ### Validating and previewing -/

def truthText (b : Bool) : String :=
  (Value.bool b).literal

def validateLines (config : Config) (path : String) : List String :=
  ["Config valid: " ++ path,
    "Timezone: " ++ config.zoneName,
    "Total tasks: " ++ Text.ofNat config.tasks.length,
    "Enabled tasks: " ++ Text.ofNat (config.tasks.filter ConfiguredTask.enabled).length] ++
  config.tasks.map fun task =>
    "- " ++ task.name ++ ": " ++ task.mode.name ++ " -> " ++ task.target ++ " (" ++ task.source ++
      ")"

def rulerLine : String :=
  String.ofList (List.replicate 80 '=')

def taskLines (task : ConfiguredTask) : List String :=
  [rulerLine,
    "Task: " ++ task.name ++ " (enabled=" ++ truthText task.enabled ++ ", mode=" ++
      task.mode.name ++ ")",
    "Target: " ++ task.target,
    "Schedule: " ++ task.source,
    "Rule: " ++ task.rule.describe]

def runLines (runs : List DateTime) (count : Int) : List String :=
  ("Next " ++ Text.ofInt count ++ " run(s):") ::
    if runs.isEmpty then ["- none"] else runs.map fun run => "- " ++ run.iso

def showRuns (console : Console) (rule : Rule) (count : Int) (time : Option DateTime)
    (zone : Option Zone) : Step Unit :=
  match rule.simulate console.state.clock count time zone defaultHorizon
    console.state.setting.home with
  | .error fault => (console, .error fault.failure)
  | .ok runs => (console.printAll (runLines runs count), .ok ())

def previewTasks (console : Console) (count : Int) (now : DateTime) (zone : Zone) :
    List ConfiguredTask → Step Nat
  | [] => (console.print rulerLine, .ok 0)
  | task :: rest =>
    match showRuns (console.printAll (taskLines task)) task.rule count (some now) (some zone) with
    | (console, .error failure) => (console, .error failure)
    | (console, .ok ()) => previewTasks console count now zone rest

def showPreview (console : Console) (config : Config) (task : String) (count : Int) : Step Nat :=
  match Config.select config.tasks task true with
  | .error error => (console, .error error.failure)
  | .ok selected =>
    match DateTime.ofInstant config.zone console.state.clock with
    | .error fault => (console, .error fault.failure)
    | .ok now => previewTasks console count now config.zone selected

def cronPreview (console : Console) (expression : String) (count : Int) : Step Nat :=
  match Cron.rule expression with
  | .error error => (console, .error error.failure)
  | .ok rule =>
    let console := console.printAll ["Cron: " ++ expression, "Rule: " ++ rule.describe]
    match showRuns console rule count none none with
    | (console, .error failure) => (console, .error failure)
    | (console, .ok ()) => (console, .ok 0)

/-! ### Running once -/

def clockSeconds (micros : Int) : Binary64 :=
  Binary64.ofIntRatio micros secondMicros

def completionLine (name : String) (began ended : Int) (result : Value) : String :=
  "Task " ++ name ++ " completed in " ++
    ((clockSeconds ended).difference (clockSeconds began)).twoPlaces ++ "s (result=" ++
    result.literal ++ ")"

/-- Runs tasks in order, each once. A failure of a task makes the exit code one; a request to leave
is followed. -/
def runTasks (console : Console) (code : Nat) : List ConfiguredTask → Step Nat
  | [] => (console, .ok code)
  | task :: rest =>
    let began := console.state.elapsed
    let console := console.tell .info
      ("Running task " ++ task.name ++ " once (" ++ task.target ++ ")")
    let state := console.state.completeFrames [.call (.library task.called) task.args]
    let console := { console with state }
    match state.result with
    | .ok result =>
      runTasks (console.tell .info (completionLine task.name began state.elapsed result)) code rest
    | .error failure =>
      if failure.leaves then (console, .error failure)
      else runTasks (console.tell .error ("Task " ++ task.name ++ " failed")) 1 rest

def runOnce (console : Console) (config : Config) (task : String) : Step Nat :=
  match Config.select config.tasks task false with
  | .error error => (console, .error error.failure)
  | .ok selected => runTasks console 0 selected

/-! ### The daemon -/

/-- The greatest number of looks at the tasks before an interrupt. -/
def looksBefore (state : State) (pollSeconds : Int) : Nat :=
  match state.setting.interruptAt with
  | none => State.patience
  | some interrupt => ((interrupt - state.clock) / (pollSeconds * secondMicros)).toNat + 2

def runDaemon (console : Console) (config : Config) (pollSeconds : Int) : Step Nat :=
  match Config.select config.tasks "" false with
  | .error error => (console, .error error.failure)
  | .ok selected =>
    let (state, code) := Daemon.run console.state config selected pollSeconds
      (looksBefore console.state pollSeconds)
    ({ console with state }, code)

/-! ### Carrying out -/

def positive (option : String) : Option Int → Except Failure Int
  | none => .error ⟨"TypeError", "'<=' not supported between instances of 'list' and 'int'"⟩
  | some number =>
    if number ≤ 0 then .error ⟨"CadenceError", option ++ " must be >= 1"⟩ else .ok number

/-- Carries out a command on the configuration that stands at a path. Numbers are checked before the
configuration is read. -/
def execute (console : Console) (source : Config.Source) (path : String) :
    Command → Step Nat
  | .validate =>
    match Config.ofSource console.state.clock source path console.state.setting.home with
    | .error failure => (console, .error failure)
    | .ok config => (console.printAll (validateLines config path), .ok 0)
  | .preview task count =>
    match positive "--count" count with
    | .error failure => (console, .error failure)
    | .ok count =>
      match Config.ofSource console.state.clock source path console.state.setting.home with
      | .error failure => (console, .error failure)
      | .ok config => showPreview console config task count
  | .run task =>
    match Config.ofSource console.state.clock source path console.state.setting.home with
    | .error failure => (console, .error failure)
    | .ok config => runOnce console config task
  | .daemon pollSeconds =>
    match positive "--poll-seconds" pollSeconds with
    | .error failure => (console, .error failure)
    | .ok pollSeconds =>
      match Config.ofSource console.state.clock source path console.state.setting.home with
      | .error failure => (console, .error failure)
      | .ok config => runDaemon console config pollSeconds
  | .cron expression count =>
    match positive "--count" count with
    | .error failure => (console, .error failure)
    | .ok count => cronPreview console expression count

def conclude : Step Nat → Step Nat
  | (console, .ok code) => (console, .ok code)
  | (console, .error failure) =>
    if failure.leaves then (console, .error failure)
    else if failure.isExpected then (console.tell .error failure.message, .ok 1)
    else (console.tell .error ("Unexpected error: " ++ failure.message), .ok 1)

end Command

def Arguments.configPath (arguments : Arguments) (directory : String) : String :=
  match arguments.config with
  | none | some "" => Path.resolve directory Command.defaultPath
  | some path => Path.resolve directory path

def Arguments.run (arguments : Arguments) (setting : Setting) (directory : String)
    (files : String → Config.Source) : Command.Step Nat :=
  let console : Console := ⟨[], .initial setting⟩
  let path := arguments.configPath directory
  if Path.isNone path then (console, .error Path.noPath)
  else Command.conclude (Command.execute console (files path) path arguments.command)

end Timetable
