import Timetable.Failure
import Timetable.Text.Pieces

/-! Paths of files, made absolute by their text alone, and why nothing can be opened at a path. -/

set_option autoImplicit false

namespace Timetable.Path

/-- The names in a path without those that lead nowhere: empty ones and single points are left out,
and two points take the name before them away. -/
def resolveNames (reached : List (List Char)) : List (List Char) → List (List Char)
  | [] => reached.reverse
  | name :: rest =>
    if name = [] ∨ name = ['.'] then resolveNames reached rest
    else if name = ['.', '.'] then resolveNames (reached.drop 1) rest
    else resolveNames (name :: reached) rest

def resolve (directory path : String) : String :=
  let full := if path.startsWith "/" || path.startsWith directory then path
    else directory ++ "/" ++ path
  let names := (resolveNames [] (Text.pieces '/' full.toList)).map String.ofList
  (if full.startsWith "/" then "/" else "") ++ "/".intercalate names

/-- A path with a character of number zero is none. -/
def isNone (path : String) : Bool :=
  path.toList.contains '\x00'

def longestName : Nat := 255

def longestPath : Nat := 4095

def nameIn? (directory path : String) : Option String :=
  let start := directory ++ "/"
  if path.startsWith start then
    let name := (path.drop start.length).toString
    if name.contains '/' then none else some name
  else none

/-- Whether a path is too long to be looked up: as a whole, or by the name that it has in the given
directory. -/
def isTooLong (directory path : String) : Bool :=
  decide (longestPath < path.utf8ByteSize) ||
    (nameIn? directory path).any fun name => decide (longestName < name.utf8ByteSize)

def noPath : Failure := ⟨"ValueError", "embedded null byte"⟩

def missing (path : String) : Failure :=
  ⟨"FileNotFoundError", "[Errno 2] No such file or directory: " ++ Text.literal path⟩

def isDirectory (path : String) : Failure :=
  ⟨"IsADirectoryError", "[Errno 21] Is a directory: " ++ Text.literal path⟩

def tooLong (path : String) : Failure :=
  ⟨"OSError", "[Errno 36] File name too long: " ++ Text.literal path⟩

def newFile (directory path : String) : Except Failure String :=
  let full := resolve directory path
  if isNone path then .error noPath
  else if isTooLong directory full then .error (tooLong full)
  else if full = directory then .error (isDirectory full)
  else
    match nameIn? directory full with
    | some name => .ok name
    | none => .error (missing full)

end Timetable.Path
