import Timetable.Text.Blank
import Timetable.Value

/-! Reading a field from a loose value.

An integer is an exact value, a collection of integers an alternation, a mapping from `from` to `to`
a range, and a text one of the four written forms `*`, `N-M`, `/N` and `S/N`. Digits of every script
spell numbers.
-/

set_option autoImplicit false

namespace Timetable

inductive FieldError where
  | notInteger (value : Value)
  | notCollection (value : Value)
  | emptyAlternation
  | memberNotInteger (member : Value)
  | rangeKeys (entries : List (Value × Value))
  | rangeBoundNotInteger (entries : List (Value × Value))
  | rangeForm (value : Value)
  | rangeOrder (start finish : Int)
  | starForm (value : Value)
  | repetitionForm (value : Value)
  | repetitionStep (text : String)
  | shiftedForm (value : Value)
  | shiftedStep (text : String)
  /-- A number of so many digits is not read. -/
  | tooLong (digits : Nat)
  | illegal (value : Value)

def FieldError.message (path : String) : FieldError → String
  | .notInteger value =>
    "Error: exact field must be an integer, got " ++ value.literal ++ " at " ++ path ++ "."
  | .notCollection value =>
    "Error: alternation field must be a collection of integers, got " ++ value.literal ++ " at " ++
      path ++ "."
  | .emptyAlternation => "Error: alternation field cannot be empty at " ++ path ++ "."
  | .memberNotInteger member =>
    "Error: alternation field must contain only integers, got " ++ member.literal ++ " at " ++
      path ++ "."
  | .rangeKeys entries =>
    "Error: range mapping needs exactly 'from' and 'to' keys, got " ++
      (Value.mapping entries).literal ++ " at " ++ path ++ "."
  | .rangeBoundNotInteger entries =>
    "Error: range bounds must be integers, got " ++ (Value.mapping entries).literal ++ " at " ++
      path ++ "."
  | .rangeForm value =>
    "Error: range field must look like \"N-M\", got " ++ value.literal ++ " at " ++ path ++ "."
  | .rangeOrder start finish =>
    "Error: range \"" ++ Text.ofInt start ++ "-" ++ Text.ofInt finish ++
      "\" needs from < to at " ++ path ++ "."
  | .starForm value =>
    "Error: star field must be \"*\", got " ++ value.literal ++ " at " ++ path ++ "."
  | .repetitionForm value =>
    "Error: repetition field must look like \"/N\", got " ++ value.literal ++ " at " ++ path ++ "."
  | .repetitionStep text => "Error: repetition \"" ++ text ++ "\" must be > 0 at " ++ path ++ "."
  | .shiftedForm value =>
    "Error: shifted repetition field must look like \"S/N\", got " ++ value.literal ++ " at " ++
      path ++ "."
  | .shiftedStep text =>
    "Error: repetition in \"" ++ text ++ "\" must be > 0 at " ++ path ++ "."
  | .tooLong digits => (Failure.tooManyDigits digits).text
  | .illegal value => "Error: illegal field " ++ value.literal ++ " at " ++ path ++ "."

/-- What a report on the error shows beside texts. -/
def FieldError.shown : FieldError → List Value
  | .notInteger value | .notCollection value | .memberNotInteger value | .rangeForm value
  | .starForm value | .repetitionForm value | .shiftedForm value | .illegal value => [value]
  | .rangeKeys entries | .rangeBoundNotInteger entries => [.mapping entries]
  | .rangeOrder start finish => [.int start, .int finish]
  | .emptyAlternation | .repetitionStep _ | .shiftedStep _ | .tooLong _ => []

/-- What comes in place of a report on the error: a number is too long to be read, or to be
written in the report. -/
def FieldError.breach? : FieldError → Option Failure
  | .tooLong digits => some (.tooManyDigits digits)
  | error => error.shown.findSome? Value.breach?

namespace Field

def runsAround? (mark : Char) (text : List Char) : Option (List Char × List Char) :=
  match text.dropWhile (· ≠ mark) with
  | [] => none
  | _ :: rest =>
    let first := text.takeWhile (· ≠ mark)
    if Text.allAre Text.isDigit first && Text.allAre Text.isDigit rest then some (first, rest)
    else none

def rangeBounds? (text : List Char) : Option (List Char × List Char) :=
  runsAround? '-' text

def repetitionStep? : List Char → Option (List Char)
  | '/' :: rest => if Text.allAre Text.isDigit rest then some rest else none
  | _ => none

/-- The digits of the shift and of the step in `S/N`, and whether a minus sign precedes the
shift. -/
def shiftAndStep? : List Char → Option (Bool × List Char × List Char)
  | '-' :: rest => (runsAround? '/' rest).map (true, ·)
  | text => (runsAround? '/' text).map (false, ·)

def numberOf (digits : List Char) : Except FieldError Nat :=
  (Text.number digits).mapError .tooLong

def withoutRepeats (seen : List Int) : List Int → List Int
  | [] => []
  | n :: rest =>
    if seen.contains n then withoutRepeats seen rest else n :: withoutRepeats (n :: seen) rest

def integers : List Value → Except FieldError (List Int)
  | [] => .ok []
  | .int n :: rest => (integers rest).map (n :: ·)
  | member :: _ => .error (.memberNotInteger member)

def exactOf : Value → Except FieldError Field
  | .int n => .ok (.exact n)
  | value => .error (.notInteger value)

def collection? : Value → Option (List Value)
  | .list items | .tuple items | .set items | .frozenSet items => some items
  | _ => none

def alternationOf (value : Value) : Except FieldError Field :=
  match collection? value with
  | none => .error (.notCollection value)
  | some [] => .error .emptyAlternation
  | some items => (integers items).map fun members => .alternation (withoutRepeats [] members)

def orderedRange (start finish : Int) : Except FieldError Field :=
  if finish ≤ start then .error (.rangeOrder start finish) else .ok (.range start finish)

def rangeOf : Value → Except FieldError Field
  | .mapping entries =>
    match entries.length, Value.entry? entries "from", Value.entry? entries "to" with
    | 2, some start, some finish =>
      match start, finish with
      | .int start, .int finish => orderedRange start finish
      | _, _ => .error (.rangeBoundNotInteger entries)
    | _, _, _ => .error (.rangeKeys entries)
  | .text s =>
    match rangeBounds? s.toList with
    | some (first, last) => do
      let start ← numberOf first
      let finish ← numberOf last
      orderedRange start finish
    | none => .error (.rangeForm (.text s))
  | value => .error (.rangeForm value)

def starOf : Value → Except FieldError Field
  | .text s => if s = "*" then .ok .star else .error (.starForm (.text s))
  | value => .error (.starForm value)

def repetitionOf : Value → Except FieldError Field
  | .text s =>
    match repetitionStep? s.toList with
    | none => .error (.repetitionForm (.text s))
    | some digits => do
      let step ← numberOf digits
      if step = 0 then .error (.repetitionStep s) else .ok (.repetition step)
  | value => .error (.repetitionForm value)

def shiftedOf : Value → Except FieldError Field
  | .text s =>
    match shiftAndStep? s.toList with
    | none => .error (.shiftedForm (.text s))
    | some (below, first, last) => do
      let shift ← numberOf first
      let step ← numberOf last
      if step = 0 then .error (.shiftedStep s)
      else .ok (.shifted (if below then -(shift : Int) else shift) step)
  | value => .error (.shiftedForm value)

def ofText (s : String) : Except FieldError Field :=
  let text := Text.strip s.toList
  let trimmed := Value.text (String.ofList text)
  if text = ['*'] then starOf trimmed
  else if (rangeBounds? text).isSome then rangeOf trimmed
  else if (repetitionStep? text).isSome then repetitionOf trimmed
  else if (shiftAndStep? text).isSome then shiftedOf trimmed
  else .error (.illegal (.text s))

def ofValue : Value → Except FieldError Field
  | .field f => .ok f
  | .int n => .ok (.exact n)
  | .mapping entries => rangeOf (.mapping entries)
  | .list items => alternationOf (.list items)
  | .tuple items => alternationOf (.tuple items)
  | .set items => alternationOf (.set items)
  | .frozenSet items => alternationOf (.frozenSet items)
  | .text s => ofText s
  | value => .error (.illegal value)

end Field

end Timetable
