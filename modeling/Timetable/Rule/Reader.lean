import Timetable.Field.Reader
import Timetable.Text.LowerCase

/-! Reading a rule from a mapping of part names to fields.

The names are checked first, in the order of the mapping; then the fields, in the order of the
parts. A part that is not named keeps the fields of the default rule.
-/

set_option autoImplicit false

namespace Timetable

inductive RuleError where
  | field (error : FieldError) (path : String)
  | partNotText (key : Value) (path : String)
  | unknownPart (key : String) (path : String)
  | notMapping (path : String)
  | repeatedPart (part : Part) (path : String)
  | noFields (part : Part) (path : String)
  | outsideDomain (field : Field) (part : Part) (path : String)

def RuleError.message : RuleError → String
  | .field error path => error.message path
  | .partNotText key path =>
    "Error: date-part names must be strings, got " ++ key.literal ++ " at " ++ path ++ "."
  | .unknownPart key path =>
    "Error: Unknown date-part \"" ++ key ++ "\" at " ++ path ++ "; expected one of " ++
      (Value.list (Part.all.map fun part => .text part.name)).literal ++ "."
  | .notMapping path => "Error: " ++ path ++ " must be a mapping of date-part to fields."
  | .repeatedPart part path =>
    "Error: date-part \"" ++ part.name ++ "\" given more than once at " ++ path ++ "."
  | .noFields part path => "Error: " ++ path ++ "." ++ part.name ++ " cannot be empty."
  | .outsideDomain offered part path =>
    "Error: \"" ++ offered.text ++ "\" is an invalid field for " ++ part.name ++ " (domain " ++
      Text.ofInt part.domain.low ++ "-" ++ Text.ofInt part.domain.high ++ ") at " ++ path ++ "."

def RuleError.breach? : RuleError → Option Failure
  | .field error _ => error.breach?
  | .partNotText key _ => key.breach?
  | .outsideDomain offered _ _ => (Value.field offered).breach?
  | .unknownPart .. | .notMapping _ | .repeatedPart .. | .noFields .. => none

def RuleError.failure (error : RuleError) : Failure :=
  error.breach?.getD ⟨"RuleError", error.message⟩

/-- The part that a key names. Blanks around the name, upper case and hyphens make no
difference. -/
def Part.ofKey (key : Value) (path : String) : Except RuleError Part :=
  match key with
  | .text s =>
    let plain := (Text.lower (Text.strip s.toList)).map fun c => if c = '-' then '_' else c
    match Part.ofName? (String.ofList plain) with
    | some part => .ok part
    | none => .error (.unknownPart s path)
  | key => .error (.partNotText key path)

namespace Rule

def namedParts (path : String) (seen : List Part) :
    List (Value × Value) → Except RuleError (List (Part × Value))
  | [] => .ok []
  | (key, value) :: rest =>
    match Part.ofKey key path with
    | .error error => .error error
    | .ok part =>
      if seen.contains part then .error (.repeatedPart part path)
      else (namedParts path (part :: seen) rest).map ((part, value) :: ·)

def itemsOf : Value → List Value
  | .list items => items
  | value => [value]

def fieldFor (part : Part) (path : String) (item : Value) : Except RuleError Field :=
  match Field.ofValue item with
  | .error error => .error (.field error path)
  | .ok field =>
    if field.valid part then .ok field else .error (.outsideDomain field part path)

def fieldsFrom (part : Part) (path : String) (index : Nat) :
    List Value → Except RuleError (List Field)
  | [] => .ok []
  | item :: rest =>
    match fieldFor part (path ++ "." ++ part.name ++ "[" ++ Text.ofNat index ++ "]") item with
    | .error error => .error error
    | .ok field => (fieldsFrom part path (index + 1) rest).map (field :: ·)

def fieldsOf (path : String) (given : List (Part × Value)) (part : Part) :
    Except RuleError (List Field) :=
  match given.lookup part with
  | none => .ok (midnight.get part)
  | some value =>
    match itemsOf value with
    | [] => .error (.noFields part path)
    | items => fieldsFrom part path 0 items

def fill (path : String) (given : List (Part × Value)) (rule : Rule) :
    List Part → Except RuleError Rule
  | [] => .ok rule
  | part :: rest =>
    match fieldsOf path given part with
    | .error error => .error error
    | .ok fields => fill path given (rule.set part fields) rest

def ofEntries (path : String) (entries : List (Value × Value)) : Except RuleError Rule :=
  match namedParts path [] entries with
  | .error error => .error error
  | .ok given => fill path given midnight Part.all

def ofValue (value : Value) (path : String) : Except RuleError Rule :=
  match value with
  | .null => .ok midnight
  | .mapping entries => ofEntries path entries
  | _ => .error (.notMapping path)

end Rule

end Timetable
