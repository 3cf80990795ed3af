import Timetable.Path

/-! Handlers of the log. -/

set_option autoImplicit false

namespace Timetable

inductive Handler where
  | stream
  | file (name : String)
  deriving DecidableEq, Repr

def Handler.kindName : Handler → String
  | .stream => "StreamHandler"
  | .file _ => "FileHandler"

structure Logger where
  handlers : List Handler
  deriving DecidableEq, Repr

namespace Logger

def name : String := "cadence"

def lineFormat : String := "%(asctime)s %(levelname)s %(message)s"

def silent : Logger := ⟨[]⟩

/-- Gives a log its handlers: the stream, and a file in a directory if one is named. A log that has
handlers keeps them. -/
def setUp (logger : Logger) (directory : String) (file : Option String) :
    Except Failure Logger :=
  if logger.handlers.isEmpty then
    match file with
    | none | some "" => .ok ⟨[.stream]⟩
    | some path => (Path.newFile directory path).map fun name => ⟨[.stream, .file name]⟩
  else .ok logger

def setUpAll (logger : Logger) (directory : String) :
    List (Option String) → Except Failure (List Logger)
  | [] => .ok []
  | file :: rest =>
    match logger.setUp directory file with
    | .error failure => .error failure
    | .ok logger => (setUpAll logger directory rest).map (logger :: ·)

def files (logger : Logger) : List String :=
  logger.handlers.filterMap fun
    | .stream => none
    | .file name => some name

end Logger

end Timetable
