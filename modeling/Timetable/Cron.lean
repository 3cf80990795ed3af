import Timetable.Rule.Reader
import Timetable.Text.Pieces

/-! Five-column expressions for minute, hour, day of month, month and weekday.

Each column is a comma list whose pieces become fields: plain numbers, `*`, ranges, steps and
shifted steps. Months and weekdays may be named by their abbreviations.
-/

set_option autoImplicit false

namespace Timetable

inductive CronError where
  | notText (value : Value)
  | columnCount (count : Nat) (expression : String)
  | unknownName (name : String) (path : String)
  | emptyPiece (token : String) (path : String)
  /-- A piece of so many plain digits is not read. -/
  | tooLong (digits : Nat)
  | rule (error : RuleError) (expression : String)

def CronError.message : CronError → String
  | .notText value => "Error: cron expression must be a string, got " ++ value.literal ++ "."
  | .columnCount count expression =>
    "Error: cron expression needs exactly 5 fields (minute hour day_of_month month weekday), " ++
      "got " ++ Text.ofNat count ++ " in \"" ++ expression ++ "\"."
  | .unknownName name path => "Error: Invalid token \"" ++ name ++ "\" at " ++ path ++ "."
  | .emptyPiece token path => "Error: Invalid cron token \"" ++ token ++ "\" at " ++ path ++ "."
  | .tooLong digits => (Failure.tooManyDigits digits).text
  | .rule error expression => error.message ++ " (cron \"" ++ expression ++ "\")"

def CronError.breach? : CronError → Option Failure
  | .notText value => value.breach?
  | .tooLong digits => some (.tooManyDigits digits)
  | .rule error _ => error.breach?
  | .columnCount .. | .unknownName .. | .emptyPiece .. => none

def CronError.failure (error : CronError) : Failure :=
  error.breach?.getD ⟨"CronError", error.message⟩

namespace Cron

abbrev Names := List (String × Int)

def weekdayNames : Names :=
  [("sun", 1), ("mon", 2), ("tue", 3), ("wed", 4), ("thu", 5), ("fri", 6), ("sat", 7)]

def monthNames : Names :=
  [("jan", 1), ("feb", 2), ("mar", 3), ("apr", 4), ("may", 5), ("jun", 6), ("jul", 7), ("aug", 8),
    ("sep", 9), ("oct", 10), ("nov", 11), ("dec", 12)]

def namesFor : Part → Names
  | .month => monthNames
  | .weekday => weekdayNames
  | _ => []

def isLetter (c : Char) : Bool :=
  c.isAlpha

/-- The number that the letters in `run`, held in reverse, name. -/
def nameValue (names : Names) (path : String) (run : List Char) : Except CronError (List Char) :=
  let name := String.ofList (run.reverse.map Char.toLower)
  match names.lookup name with
  | some n => .ok (Text.ofInt n).toList
  | none => .error (.unknownName name path)

/-- Replaces the runs of letters in a text by numbers, where `run` holds in reverse what is read of
the present one. -/
def replaceFrom (names : Names) (path : String) (run : List Char) :
    List Char → Except CronError (List Char)
  | [] => if run.isEmpty then .ok [] else nameValue names path run
  | c :: rest =>
    if isLetter c then replaceFrom names path (c :: run) rest
    else if run.isEmpty then (replaceFrom names path [] rest).map (c :: ·)
    else
      match nameValue names path run with
      | .error error => .error error
      | .ok number => (replaceFrom names path [] rest).map fun done => number ++ c :: done

def replaceNames (names : Names) (path : String) (text : List Char) :
    Except CronError (List Char) :=
  replaceFrom names path [] text

def specifier (piece : List Char) : Except CronError Value :=
  if Text.allAre Text.isPlainDigit piece then
    match Text.number piece with
    | .ok n => .ok (.int n)
    | .error digits => .error (.tooLong digits)
  else
    match piece with
    | '*' :: '/' :: rest => .ok (.text (String.ofList ('/' :: rest)))
    | piece => .ok (.text (String.ofList piece))

def specifiersOf : List (List Char) → Except CronError (List Value)
  | [] => .ok []
  | piece :: rest =>
    match specifier piece with
    | .error error => .error error
    | .ok value => (specifiersOf rest).map (value :: ·)

/-- The values that a column hands to the reader of rules: a list of plain numbers is one
alternation, any other list has a value for each piece. -/
def specifiers (pieces : List (List Char)) : Except CronError (List Value) :=
  (specifiersOf pieces).map fun values =>
    if 1 < pieces.length ∧ pieces.all (Text.allAre Text.isPlainDigit) then [.list values]
    else values

def column (names : Names) (part : String) (token : String) : Except CronError (List Value) :=
  let path := "cron." ++ part
  let plain := Text.lower (Text.strip token.toList)
  let named := if names.isEmpty then .ok plain else replaceNames names path plain
  match named with
  | .error error => .error error
  | .ok text =>
    let parted := Text.pieces ',' text
    if parted.any List.isEmpty then .error (.emptyPiece token path)
    else specifiers parted

def columnParts : List Part :=
  [.minute, .hour, .dayOfMonth, .month, .weekday]

def columns : List Part → List (List Char) → Except CronError (List (Part × List Value))
  | part :: parts, token :: tokens =>
    match column (namesFor part) part.name (String.ofList token) with
    | .error error => .error error
    | .ok values => (columns parts tokens).map ((part, values) :: ·)
  | _, _ => .ok []

def columnsOf (expression : String) : Except CronError (List (Part × List Value)) :=
  let tokens := Text.words expression.toList
  if tokens.length = 5 then columns columnParts tokens
  else .error (.columnCount tokens.length expression)

def columnsOfValue : Value → Except CronError (List (Part × List Value))
  | .text s => columnsOf s
  | value => .error (.notText value)

def rule (expression : String) : Except CronError Rule :=
  match columnsOf expression with
  | .error error => .error error
  | .ok values =>
    let entries := values.map fun (part, values) => (Value.text part.name, Value.list values)
    match Rule.ofEntries "cron" entries with
    | .ok rule => .ok rule
    | .error error => .error (.rule error expression)

def ruleOfValue : Value → Except CronError Rule
  | .text s => rule s
  | value => .error (.notText value)

end Cron

inductive ScheduleError where
  | rule (error : RuleError)
  | cron (error : CronError)

def ScheduleError.failure : ScheduleError → Failure
  | .rule error => error.failure
  | .cron error => error.failure

/-- The rule that a loose value stands for: a rule, an expression, a mapping, or null for the
default. -/
def Rule.ofLoose (value : Value) (path : String) : Except ScheduleError Rule :=
  match value with
  | .rule rule => .ok rule
  | .text s => (Cron.rule s).mapError .cron
  | value => (Rule.ofValue value path).mapError .rule

end Timetable
