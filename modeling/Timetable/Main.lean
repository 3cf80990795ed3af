import Std.Time.DateTime.Timestamp
import Timetable.Command
import Timetable.Document
import Timetable.Logger

/-! The program: it reads a configuration in JSON notation, carries out a command line, and prints.

The daemon lets real time pass between two looks at its tasks. All else is done by the library.
-/

set_option autoImplicit false

namespace Timetable.Program

def unixEpoch : Int :=
  ((dayNumber 1970 1 1 : Int) - 1) * dayMicros

def usage : String :=
  "usage: timetable [-h] [--config CONFIG] [--log-file LOG_FILE] " ++
    "(validate | preview | run | daemon | cron) ..."

def settingAt (clock : Instant) : Setting where
  start := clock
  zone := .universal
  plans := none
  sink := none
  longestWait := Setting.standardLongestWait
  tracesWaits := false
  interruptAt := none

def sourceAt (directory path : String) : IO Config.Source := do
  try
    let text ← IO.FS.readFile path
    match Document.read? text with
    | some value => return .document value
    | none => return if (Document.skipBlanks text.toList).isEmpty then .document .null else .broken
  catch error =>
    match error with
    | .noFileOrDirectory .. => return .missing
    | _ => return if Path.isTooLong directory path then .tooLong else .directory

def printLog (log : List (Level × String)) : IO Unit := do
  for (level, line) in log do
    IO.println (level.name ++ " " ++ line)
  (← IO.getStdout).flush

/-- Lets the time pass that a daemon sleeps between two looks, and prints what was logged since. -/
def settle (pollSeconds : Nat) (state : State) : IO State := do
  IO.sleep (UInt32.ofNat (pollSeconds * 1000))
  printLog state.log.reverse
  return { state with events := [], log := [] }

def runDaemon (setting : Setting) (source : Config.Source) (path : String) (pollSeconds : Nat) :
    IO UInt32 := do
  let selection := do
    let config ← Config.ofSource setting.start source path setting.home
    let selected ← (Config.select config.tasks "" false).mapError Config.SelectionError.failure
    return (config, selected)
  match selection with
  | .error failure =>
    printLog [(.error, failure.message)]
    return 1
  | .ok (config, selected) =>
    let (state, launched) := Daemon.launch (.initial setting) config selected
    printLog state.log.reverse
    let state := { state with log := [] }
    let (state, code) ← match launched with
      | .error failure => pure (state, .error failure)
      | .ok () => do
        let (state, code) ←
          Daemon.watchWith (settle pollSeconds) selected pollSeconds State.patience state
        pure (Daemon.cleanUp state selected, code)
    printLog state.log.reverse
    match code with
    | .ok code => return UInt32.ofNat code
    | .error failure =>
      printLog [(.error, "Unexpected error: " ++ failure.message)]
      return 1

def runCommand (arguments : Arguments) (setting : Setting) (directory : String)
    (source : Config.Source) : IO UInt32 := do
  let (console, code) := arguments.run setting directory fun _ => source
  console.lines.forM fun line => IO.println line
  printLog console.state.log.reverse
  match code with
  | .ok code => return UInt32.ofNat code
  | .error failure => return UInt32.ofNat (failure.text.toNat?.getD 1)

end Timetable.Program

def main (words : List String) : IO UInt32 := do
  match Timetable.Arguments.ofWords words with
  | .error refusal =>
    IO.eprintln Timetable.Program.usage
    return UInt32.ofNat refusal.exitCode
  | .ok arguments =>
    let stamp ← Std.Time.Timestamp.now
    let clock := Timetable.Program.unixEpoch + stamp.toNanosecondsSinceUnixEpoch.val / 1000
    let setting := Timetable.Program.settingAt clock
    let directory := (← IO.currentDir).toString
    let path := arguments.configPath directory
    let source ← Timetable.Program.sourceAt directory path
    match arguments.command with
    | .daemon (some pollSeconds) =>
      if 0 < pollSeconds then
        Timetable.Program.runDaemon setting source path pollSeconds.toNat
      else Timetable.Program.runCommand arguments setting directory source
    | _ => Timetable.Program.runCommand arguments setting directory source
