import Timetable.Library
import Timetable.Text.Blank
import Timetable.Text.Pieces
import Timetable.Text.Word

/-! Targets: texts such as `package.module:function` that name a function of the library. -/

set_option autoImplicit false

namespace Timetable

inductive TargetError where
  | shape (target : String)
  | noModule (name reason : String)
  | noAttribute (target name : String)
  | notCallable (target : String)

def TargetError.message (path : String) : TargetError → String
  | .shape target =>
    "Error: " ++ path ++ " must look like \"package.module:function\", got \"" ++ target ++ "\"."
  | .noModule name reason =>
    "Error: Cannot import module \"" ++ name ++ "\" at " ++ path ++ ": " ++ reason
  | .noAttribute target name =>
    "Error: \"" ++ target ++ "\" has no attribute \"" ++ name ++ "\" at " ++ path ++ "."
  | .notCallable target => "Error: \"" ++ target ++ "\" is not callable at " ++ path ++ "."

namespace Target

/-- A plain letter or an underscore, then letters, digits, underscores and points. -/
def isDottedName : List Char → Bool
  | [] => false
  | first :: rest =>
    (first.isAlpha || first == '_') && rest.all fun c => Text.isWord c || c == '.'

def names (dotted : List Char) : List String :=
  (Text.pieces '.' dotted).map String.ofList

def follow (target : String) (node : Library.Node) :
    List String → Except TargetError Library.Node
  | [] => .ok node
  | name :: rest =>
    match node.attribute? name with
    | none => .error (.noAttribute target name)
    | some next => follow target next rest

def resolve (target : String) : Except TargetError Library.Function :=
  match Text.pieces ':' target.toList with
  | [moduleName, attributes] =>
    if isDottedName moduleName && isDottedName attributes then
      match Library.moduleAt (names moduleName) with
      | .error reason => .error (.noModule (String.ofList moduleName) reason)
      | .ok node =>
        match follow target node (names attributes) with
        | .error error => .error error
        | .ok found =>
          match found.function? with
          | none => .error (.notCallable target)
          | some called => .ok called
    else .error (.shape target)
  | _ => .error (.shape target)

end Target

end Timetable
