import Timetable.Text.Integer

/-! Command lines.

Options come before the command or after it, those of the command only after it. An option has a
value, which is the next word or follows an equals sign. A word that looks like a negative number or
holds a space is no option, and neither is any word after a lone `--`, which has to follow the
command.
-/

set_option autoImplicit false

namespace Timetable

def defaultPreviewCount : Nat := 5

def defaultPollSeconds : Nat := 1

/-- What to do. An empty name of a task stands for all tasks. A number is absent where its option
was given no value. -/
inductive Command where
  | validate
  | preview (task : String) (count : Option Int)
  | run (task : String)
  | daemon (pollSeconds : Option Int)
  | cron (expression : String) (count : Option Int)
  deriving DecidableEq, Repr

structure Arguments where
  config : Option String
  command : Command
  deriving DecidableEq, Repr

inductive Refusal where
  | help
  | misuse
  deriving DecidableEq, Repr

def Refusal.exitCode : Refusal → Nat
  | .help => 0
  | .misuse => 2

namespace Arguments

inductive Word where
  | option (name : String) (value : Option String)
  /-- The mark after which there are no more options. -/
  | mark
  | unknown
  | operand
  deriving DecidableEq, Repr

def helpNames : List String :=
  ["-h", "--help"]

/-- A text without the line break at its end, of which one is left out at most. -/
def withoutBreak (text : List Char) : List Char :=
  if text.getLast? = some '\n' then text.dropLast else text

/-- Whether a word after its minus sign looks like a number, with or without a fraction. A line break
may follow it. -/
def looksLikeNumber (text : List Char) : Bool :=
  match Text.pieces '.' (withoutBreak text) with
  | [whole] => Text.allAre Text.isDigit whole
  | [whole, fraction] => whole.all Text.isDigit && Text.allAre Text.isDigit fraction
  | _ => false

def parted (word : List Char) : String × Option String :=
  let name := word.takeWhile (· ≠ '=')
  (String.ofList name,
    if name.length < word.length then some (String.ofList (word.drop (name.length + 1))) else none)

/-- The options that a word which is none itself can stand for, each with its value. The beginning
of a long option stands for it; a short option has its value right after it. -/
def meanings (known : List String) (word : List Char) : List (String × Option String) :=
  let (name, value) := parted word
  if known.contains name || helpNames.contains name then [(name, value)]
  else
    match word with
    | '-' :: '-' :: _ =>
      ((known ++ helpNames).filter fun option => option.startsWith name).map (·, value)
    | '-' :: 'h' :: rest => [("-h", some (String.ofList rest))]
    | _ => []

def classify (known : List String) (word : String) : Except Refusal Word :=
  match word.toList with
  | '-' :: rest =>
    if known.contains word || helpNames.contains word then .ok (.option word none)
    else if rest.isEmpty then .ok .operand
    else
      match meanings known word.toList with
      | [(option, value)] => .ok (.option option value)
      -- The beginning of several options stands for none of them.
      | _ :: _ => .error .misuse
      | [] =>
        if looksLikeNumber rest || rest.contains ' ' then .ok .operand else .ok .unknown
  | _ => .ok .operand

def classifyAll (known : List String) : List String → Except Refusal (List (String × Word))
  | [] => .ok []
  | word :: rest =>
    if word = "--" then .ok ((word, .mark) :: rest.map fun operand => (operand, .operand))
    else do
      let taken ← classify known word
      return (word, taken) :: (← classifyAll known rest)

structure Reading where
  /-- The latest first. -/
  options : List (String × String)
  operands : List String
  /-- Whether there was a word that nothing is known of. -/
  strays : Bool

structure Form where
  known : List String
  integers : List String
  /-- The first operand ends the reading; all that follows it goes with it. -/
  stopsAtOperand : Bool
  takesOperands : Bool

/-- What comes of a call for help with a value. The value of the short option can only be the same
option again, any number of times. -/
def helpWith (name value : String) : Refusal :=
  if name = "-h" ∧ value.isEmpty = false ∧ value.all (· = 'h') then .help else .misuse

def Form.admits (form : Form) (option value : String) : Bool :=
  !form.integers.contains option || (Text.integer? value.toList).isSome

/-- The value of an option that follows an equals sign, if the option can have it. The mark in its
place is left out, so that the option has no value, which an empty one stands for. -/
def Form.attached? (form : Form) (option value : String) : Option String :=
  if value = "--" then some ""
  else if form.admits option value then some value
  else none

def Form.read (form : Form) (reading : Reading) :
    List (String × Word) → Except Refusal Reading
  | [] => .ok reading
  | (_, .option name (some value)) :: rest =>
    if helpNames.contains name then .error (helpWith name value)
    else
      match form.attached? name value with
      | some value => form.read { reading with options := (name, value) :: reading.options } rest
      | none => .error .misuse
  | (_, .option name none) :: rest =>
    if helpNames.contains name then .error .help
    else
      match rest with
      | (value, .operand) :: rest =>
        if form.admits name value then
          form.read { reading with options := (name, value) :: reading.options } rest
        else .error .misuse
      | _ => .error .misuse
  | (_, .mark) :: rest =>
    if form.stopsAtOperand then .error .misuse
    else form.read { reading with strays := reading.strays || !form.takesOperands } rest
  | (_, .unknown) :: rest => form.read { reading with strays := true } rest
  | (word, .operand) :: rest =>
    if form.stopsAtOperand then
      -- What follows the command is read again, with the options of the command.
      .ok { reading with operands := word :: rest.map Prod.fst }
    else if form.takesOperands then
      form.read { reading with operands := reading.operands ++ [word] } rest
    else form.read { reading with strays := true } rest

def Form.readWords (form : Form) (words : List String) : Except Refusal Reading := do
  form.read ⟨[], [], false⟩ (← classifyAll form.known words)

def mainForm : Form where
  known := ["--config", "--log-file"]
  integers := []
  stopsAtOperand := true
  takesOperands := true

def commandForm (known integers : List String) (takesOperands : Bool) : Form where
  known := known
  integers := integers
  stopsAtOperand := false
  takesOperands := takesOperands

def formOf? : String → Option Form
  | "validate" => some (commandForm ["--config"] [] false)
  | "preview" => some (commandForm ["--config", "--task", "--count"] ["--count"] false)
  | "run" => some (commandForm ["--config", "--task"] [] false)
  | "daemon" => some (commandForm ["--config", "--poll-seconds"] ["--poll-seconds"] false)
  | "cron" => some (commandForm ["--count"] ["--count"] true)
  | _ => none

namespace Reading

def option? (reading : Reading) (name : String) : Option String :=
  reading.options.lookup name

def integer (reading : Reading) (name : String) (default : Nat) : Option Int :=
  match reading.option? name with
  | some value => Text.integer? value.toList
  | none => some default

end Reading

def commandOf (name : String) (reading : Reading) : Except Refusal Command :=
  let task := (reading.option? "--task").getD ""
  let count := reading.integer "--count" defaultPreviewCount
  match name, reading.operands with
  | "validate", [] => .ok .validate
  | "preview", [] => .ok (.preview task count)
  | "run", [] => .ok (.run task)
  | "daemon", [] => .ok (.daemon (reading.integer "--poll-seconds" defaultPollSeconds))
  | "cron", [expression] => .ok (.cron expression count)
  | _, _ => .error .misuse

/-- The meaning of a command line. A path of the configuration after the command counts rather than
one before it. -/
def ofWords (words : List String) : Except Refusal Arguments := do
  let before ← mainForm.readWords words
  match before.operands with
  | [] => throw .misuse
  | name :: rest =>
    match formOf? name with
    | none => throw .misuse
    | some form =>
      let after ← form.readWords rest
      let command ← commandOf name after
      if before.strays || after.strays then throw .misuse
      let config := (after.option? "--config").orElse fun _ => before.option? "--config"
      return { config, command }

end Arguments

end Timetable
