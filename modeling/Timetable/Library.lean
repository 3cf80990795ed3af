import Timetable.Value

/-! The library of functions that a configuration can name as targets.

The library is a tree of modules, classes, functions and plain values. A target names a module and,
after a colon, the way from there to a function.
-/

set_option autoImplicit false

namespace Timetable.Library

inductive Function where
  | echo
  /-- A failure that tells the number of arguments. -/
  | boom
  /-- A request to leave. -/
  | leave
  /-- The sum of its two arguments. -/
  | add
  | inc
  | none
  /-- Its arguments, after a sleep of as many milliseconds as the first one says. -/
  | snooze
  /-- The class itself: a new object. -/
  | box
  | make
  /-- The number of its arguments. -/
  | run
  deriving DecidableEq, Repr, Inhabited

namespace Function

def name : Function → String
  | .echo => "echo"
  | .boom => "boom"
  | .leave => "leave"
  | .add => "add"
  | .inc => "inc"
  | .none => "none"
  | .snooze => "snooze"
  | .box => "Box"
  | .make => "Box.make"
  | .run => "sub.run"

def parameters? : Function → Option (List String)
  | .add => some ["a", "b"]
  | .inc => some ["a"]
  | _ => Option.none

end Function

inductive Node where
  | callable (called : Function)
  | constant
  /-- A module or class with its attributes; a class can also be called. -/
  | scope (asFunction : Option Function) (attributes : List (String × Node))

def subModule : Node :=
  .scope Option.none [("run", .callable .run), ("LIMIT", .constant)]

def boxClass : Node :=
  .scope (some .box) [("make", .callable .make), ("size", .constant)]

def rootModule : Node :=
  .scope Option.none [("echo", .callable .echo), ("boom", .callable .boom),
    ("leave", .callable .leave), ("add", .callable .add), ("inc", .callable .inc),
    ("none", .callable .none), ("snooze", .callable .snooze), ("PI", .constant),
    ("NAME", .constant), ("Box", boxClass), ("sub", subModule)]

def Node.attribute? : Node → String → Option Node
  | .scope _ attributes, name => attributes.lookup name
  | _, _ => Option.none

def Node.function? : Node → Option Function
  | .callable called => some called
  | .constant => Option.none
  | .scope asFunction _ => asFunction

/-- The module at a dotted path, or the reason why there is none: the first prefix of the path that
is not a module. Only `tasklib` has modules below it. -/
def moduleAt (path : List String) : Except String Node :=
  match path with
  | ["tasklib"] => .ok rootModule
  | ["tasklib", "sub"] => .ok subModule
  | "tasklib" :: "sub" :: next :: _ =>
    .error ("No module named " ++ Text.literal ("tasklib.sub." ++ next) ++
      "; 'tasklib.sub' is not a package")
  | "tasklib" :: next :: _ => .error ("No module named " ++ Text.literal ("tasklib." ++ next))
  | first :: _ => .error ("No module named " ++ Text.literal first)
  | [] => .error "No module named ''"

def missingText (function : String) (parameters : List String) : String :=
  match parameters with
  | [a] => function ++ "() missing 1 required positional argument: " ++ Text.literal a
  | names =>
    function ++ "() missing " ++ Text.ofNat names.length ++ " required positional arguments: " ++
      " and ".intercalate (names.map Text.literal)

def arityFailure? (function : Function) (args : List Value) : Option Failure :=
  match function.parameters? with
  | Option.none => Option.none
  | some parameters =>
    let wanted := parameters.length
    if args.length < wanted then
      some ⟨"TypeError", missingText function.name (parameters.drop args.length)⟩
    else if wanted < args.length then
      some ⟨"TypeError", function.name ++ "() takes " ++ Text.ofNat wanted ++
        (if wanted = 1 then " positional argument but " else " positional arguments but ") ++
        Text.ofNat args.length ++ " were given"⟩
    else Option.none

def unsupported (operation : String) (left right : Value) : Failure :=
  ⟨"TypeError", "unsupported operand type(s) for " ++ operation ++ ": '" ++ left.kindName ++
    "' and '" ++ right.kindName ++ "'"⟩

def doubleOf (n : Int) : Except Failure Binary64 :=
  match Binary64.ofIntRatio n 1 with
  | .infinite _ => .error ⟨"OverflowError", "int too large to convert to float"⟩
  | value => .ok value

/-- The sum of two values: of numbers, or of texts or sequences of one kind. A sum with a double is
computed in double precision. -/
def sum (left right : Value) : Except Failure Value :=
  match left, right with
  | .text a, .text b => .ok (.text (a ++ b))
  | .list a, .list b => .ok (.list (a ++ b))
  | .tuple a, .tuple b => .ok (.tuple (a ++ b))
  | .bytes a, .bytes b => .ok (.bytes (a ++ b))
  | .bytes _, other =>
    .error ⟨"TypeError", "can't concat " ++ other.kindName ++ " to bytes"⟩
  | .text _, other | .list _, other | .tuple _, other =>
    .error ⟨"TypeError", "can only concatenate " ++ left.kindName ++ " (not \"" ++ other.kindName ++
      "\") to " ++ left.kindName⟩
  | .float a, .float b => .ok (.float (a.plus b))
  | .float a, other | other, .float a =>
    match other.integer? with
    | some n => (doubleOf n).map fun b => .float (a.plus b)
    | Option.none => .error (unsupported "+" left right)
  | left, right =>
    match left.integer?, right.integer? with
    | some a, some b => .ok (.int (a + b))
    | _, _ => .error (unsupported "+" left right)

def resultOf (function : Function) (args : List Value) : Except Failure Value :=
  match function, args with
  | .echo, args | .snooze, args => .ok (.tuple args)
  | .boom, args => .error ⟨"ValueError", "boom " ++ Text.ofNat args.length⟩
  | .leave, _ => .error (.leave "7")
  | .add, [a, b] => sum a b
  | .inc, [a] => sum a (.int 1)
  | .make, args => .ok (.list args)
  | .run, args => .ok (.int args.length)
  | .box, _ :: _ => .error ⟨"TypeError", "Box() takes no arguments"⟩
  | _, _ => .ok .null

def result (function : Function) (args : List Value) : Except Failure Value :=
  match arityFailure? function args with
  | some failure => .error failure
  | Option.none => resultOf function args

def secondsOf (milliseconds : Value) : Except Failure Binary64 :=
  match milliseconds, milliseconds.integer? with
  | .float value, _ => .ok (value.dividedBy 1000)
  | _, some n =>
    match Binary64.ofIntRatio n 1000 with
    | .infinite _ => .error ⟨"OverflowError", "integer division result too large for a float"⟩
    | seconds => .ok seconds
  | _, Option.none => .error (unsupported "/" milliseconds (.int 1000))

def wholeMicros (seconds : Binary64) : Except Failure Int :=
  match seconds.times 1000000 with
  | .undefined => .error ⟨"ValueError", "cannot convert float NaN to integer"⟩
  | .infinite _ => .error ⟨"OverflowError", "cannot convert float infinity to integer"⟩
  | micros => .ok (micros.scaled 1)

def sleepOf (function : Function) (args : List Value) : Except Failure (Option Int) :=
  match function, args with
  | .snooze, [] => .error ⟨"IndexError", "tuple index out of range"⟩
  | .snooze, milliseconds :: _ => ((secondsOf milliseconds).bind wholeMicros).map some
  | _, _ => .ok Option.none

end Timetable.Library
