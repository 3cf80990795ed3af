import Timetable.Failure
import Timetable.Part

/-! Fields: what a rule says of one part.

A field can be asked three things: whether it suits a part, whether it matches a value, and which
values it generates. Dates are matched; times of day are generated. A range includes its end when
it matches and leaves it out when it generates.
-/

set_option autoImplicit false

namespace Timetable

inductive Field where
  | exact (n : Int)
  | alternation (members : List Int)
  | range (start finish : Int)
  | star
  /-- Every multiple of `rep`. -/
  | repetition (rep : Int)
  /-- Every value that differs from `shift` by a multiple of `rep`. -/
  | shifted (shift rep : Int)
  deriving DecidableEq, Repr, Inhabited

namespace Field

def text : Field → String
  | .exact n => Text.ofInt n
  | .alternation members => ",".intercalate (members.map Text.ofInt)
  | .range start finish => Text.ofInt start ++ "-" ++ Text.ofInt finish
  | .star => "*"
  | .repetition rep => "/" ++ Text.ofInt rep
  | .shifted shift rep => Text.ofInt shift ++ "/" ++ Text.ofInt rep

def isWritable : Field → Bool
  | .exact n => Text.isWritable n
  | .alternation members => members.all Text.isWritable
  | .range start finish => Text.isWritable start && Text.isWritable finish
  | .star => true
  | .repetition rep => Text.isWritable rep
  | .shifted shift rep => Text.isWritable shift && Text.isWritable rep

/-- The literal of a field: its form with the numbers it holds. A sequence of one number keeps a
comma. -/
def literal : Field → String
  | .exact n => "Exact(n=" ++ Text.ofInt n ++ ")"
  | .alternation members =>
    let body := ", ".intercalate (members.map Text.ofInt)
    "Alternation(members=(" ++ (if members.length = 1 then body ++ "," else body) ++ "))"
  | .range start finish =>
    "Range(start=" ++ Text.ofInt start ++ ", end=" ++ Text.ofInt finish ++ ")"
  | .star => "Star()"
  | .repetition rep => "Repetition(rep=" ++ Text.ofInt rep ++ ")"
  | .shifted shift rep =>
    "ShiftedRepetition(shift=" ++ Text.ofInt shift ++ ", rep=" ++ Text.ofInt rep ++ ")"

/-- Whether the field suits a part: the values it names lie in the domain, a step is positive and
lies in the domain, and so does the first value after a shift. -/
def valid (part : Part) : Field → Bool
  | .exact n => part.domain.contains n
  | .alternation members => members.all part.domain.contains
  | .range start finish => part.domain.contains start && part.domain.contains finish
  | .star => true
  | .repetition rep => decide (0 < rep) && part.domain.contains rep
  | .shifted shift rep => decide (0 < rep) && part.domain.contains (shift + rep)

def divides (step difference : Int) : Except Fault Bool :=
  if step = 0 then .error .zeroModulus else .ok (decide (difference % step = 0))

def matchesValue (value : Int) : Field → Except Fault Bool
  | .exact n => .ok (decide (value = n))
  | .alternation members => .ok (members.contains value)
  | .range start finish => .ok (decide (start ≤ value) && decide (value ≤ finish))
  | .star => .ok true
  | .repetition rep => divides rep value
  | .shifted shift rep => divides rep (value - shift)

/-- The `count` numbers `first`, `first + step`, … -/
def progression (first step : Int) (count : Nat) : List Int :=
  (List.range count).map fun (k : Nat) => first + step * (k : Int)

/-- How many steps from `first` stay below `bound`. -/
def stepsBelow (first step bound : Int) : Nat :=
  ((bound - first + step - 1) / step).toNat

/-- The values of the progression from `first` by `step` that lie in the domain of a part. A step
below zero leads away from the domain. -/
def generated (part : Part) (first step : Int) : Except Fault (List Int) :=
  if step = 0 then .error .zeroStep
  else if step < 0 then .ok []
  else
    let count := stepsBelow first step (part.domain.high + 1)
    .ok ((progression first step count).filter part.domain.contains)

def values (part : Part) : Field → Except Fault (List Int)
  | .exact n => .ok [n]
  | .alternation members => .ok members
  | .range start finish => .ok (progression start 1 (finish - start).toNat)
  | .star =>
    .ok (progression part.domain.low 1 (part.domain.high + 1 - part.domain.low).toNat)
  | .repetition rep => generated part 0 rep
  | .shifted shift rep => generated part shift rep

/-- Validity for a part given by name: an unknown name is a fault where the answer depends on the
domain. -/
def validFor (name : String) (field : Field) : Except Fault Bool :=
  match Part.ofName? name, field with
  | some part, field => .ok (field.valid part)
  | none, .star | none, .alternation [] => .ok true
  | none, .repetition rep | none, .shifted _ rep =>
    if rep ≤ 0 then .ok false else .error (.unknownPart name)
  | none, _ => .error (.unknownPart name)

/-- The values for a part given by name: an unknown name is a fault where they depend on the
domain. -/
def valuesFor (name : String) (field : Field) : Except Fault (List Int) :=
  match Part.ofName? name, field with
  | some part, field => field.values part
  | none, .exact n => .ok [n]
  | none, .alternation members => .ok members
  | none, .range start finish => .ok (progression start 1 (finish - start).toNat)
  | none, _ => .error (.unknownPart name)

end Field

end Timetable
