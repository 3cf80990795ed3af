import Timetable.Number.Binary64
import Timetable.Rule

/-! Loose values: what a document, an argument list or a result can hold before it is checked.

A mapping keeps the order of its entries; no two of its keys are equal, where equal numbers of
different kinds count as one key.
-/

set_option autoImplicit false

namespace Timetable

inductive Value where
  | null
  | bool (b : Bool)
  | int (n : Int)
  | float (x : Binary64)
  | text (s : String)
  | bytes (octets : List UInt8)
  | list (items : List Value)
  | tuple (items : List Value)
  | set (items : List Value)
  | frozenSet (items : List Value)
  | mapping (entries : List (Value × Value))
  | field (field : Field)
  | rule (rule : Rule)
  deriving Inhabited

namespace Value

def integer? : Value → Option Int
  | .bool b => some (if b then 1 else 0)
  | .int n => some n
  | _ => none

def number? : Value → Option (Int × Nat)
  | .bool b => some (if b then 1 else 0, 1)
  | .int n => some (n, 1)
  | .float (.finite negative mantissa exponent) =>
    some (Binary64.toRatio (.finite negative mantissa exponent))
  | _ => none

mutual

/-- Equality of keys. Numbers are equal by value, whatever their kind. -/
def sameKey : Value → Value → Bool
  | .null, .null => true
  | .text left, .text right => decide (left = right)
  | .bytes left, .bytes right => decide (left = right)
  | .tuple left, .tuple right => sameKeys left right
  | .frozenSet left, .frozenSet right => sameKeys left right
  | .field left, .field right => decide (left = right)
  | .float (.infinite left), .float (.infinite right) => decide (left = right)
  | left, right =>
    match left.number?, right.number? with
    | some (a, b), some (c, d) => decide (a * d = c * b)
    | _, _ => false

def sameKeys : List Value → List Value → Bool
  | [], [] => true
  | left :: lefts, right :: rights => sameKey left right && sameKeys lefts rights
  | _, _ => false

end

def infinity? : Value → Option Bool
  | .float (.infinite negative) => some negative
  | _ => none

def numberOrder (left right : Value) : Ordering :=
  match left.infinity?, right.infinity? with
  | some a, some b => compare b a
  | some negative, none => if negative then .lt else .gt
  | none, some negative => if negative then .gt else .lt
  | none, none =>
    match left.number?, right.number? with
    | some (a, b), some (c, d) => compare (a * d) (c * b)
    | _, _ => .eq

mutual

/-- The order of values of one kind, where all numbers are of one kind. Tuples are ordered by the
first items that differ, and a tuple that others begin with comes before them. Values that no order
holds for count as equal. -/
def order : Value → Value → Ordering
  | .text left, .text right => compare left right
  | .bytes left, .bytes right => compareOfLessAndEq left right
  | .tuple left, .tuple right => itemsOrder left right
  | left, right => numberOrder left right

def itemsOrder : List Value → List Value → Ordering
  | [], [] => .eq
  | [], _ :: _ => .lt
  | _ :: _, [] => .gt
  | left :: lefts, right :: rights => (order left right).then (itemsOrder lefts rights)

end

def insertEntry (key value : Value) : List (Value × Value) → List (Value × Value)
  | [] => [(key, value)]
  | (other, old) :: rest =>
    if sameKey other key then (other, value) :: rest
    else (other, old) :: insertEntry key value rest

def ofEntries (entries : List (Value × Value)) : Value :=
  .mapping (entries.foldl (fun made entry => insertEntry entry.1 entry.2 made) [])

def entry? (entries : List (Value × Value)) (key : String) : Option Value :=
  (entries.find? fun entry => sameKey entry.1 (.text key)).map (·.2)

def isVoid : Value → Bool
  | .null => true
  | .bool b => !b
  | .int n => decide (n = 0)
  | .float (.finite _ mantissa _) => decide (mantissa = 0)
  | .float _ => false
  | .text s => s.isEmpty
  | .bytes octets => octets.isEmpty
  | .list items | .tuple items | .set items | .frozenSet items => items.isEmpty
  | .mapping entries => entries.isEmpty
  | .field _ | .rule _ => false

def inRound (items : List String) : String :=
  match items with
  | [item] => "(" ++ item ++ ",)"
  | items => "(" ++ ", ".intercalate items ++ ")"

def inCurly (items : List String) : String :=
  "\x7b" ++ ", ".intercalate items ++ "\x7d"

def ruleLiteral (rule : Rule) : String :=
  "Rule(parts=mappingproxy(" ++ inCurly (Part.all.map fun part =>
    Text.literal part.name ++ ": " ++ inRound ((rule.get part).map Field.literal)) ++ "))"

mutual

def literal : Value → String
  | .null => "None"
  | .bool b => if b then "True" else "False"
  | .int n => Text.ofInt n
  | .float x => x.literal
  | .text s => Text.literal s
  | .bytes octets => Text.byteLiteral octets
  | .list items => "[" ++ ", ".intercalate (literals items) ++ "]"
  | .tuple items => inRound (literals items)
  | .set items => if items.isEmpty then "set()" else inCurly (literals items)
  | .frozenSet items =>
    if items.isEmpty then "frozenset()" else "frozenset(" ++ inCurly (literals items) ++ ")"
  | .mapping entries => inCurly (entryLiterals entries)
  | .field f => f.literal
  | .rule r => ruleLiteral r

def literals : List Value → List String
  | [] => []
  | item :: rest => literal item :: literals rest

def entryLiterals : List (Value × Value) → List String
  | [] => []
  | (key, value) :: rest => (literal key ++ ": " ++ literal value) :: entryLiterals rest

end

mutual

def isWritable : Value → Bool
  | .int n => Text.isWritable n
  | .list items | .tuple items | .set items | .frozenSet items => areWritable items
  | .mapping entries => entriesWritable entries
  | .field f => f.isWritable
  | .rule r => r.isWritable
  | .null | .bool _ | .float _ | .text _ | .bytes _ => true

def areWritable : List Value → Bool
  | [] => true
  | item :: rest => isWritable item && areWritable rest

def entriesWritable : List (Value × Value) → Bool
  | [] => true
  | (key, value) :: rest => isWritable key && isWritable value && entriesWritable rest

end

/-- What showing a value ends in where it has no literal. -/
def breach? (value : Value) : Option Failure :=
  if value.isWritable then none else some .unwritable

def display : Value → String
  | .text s => s
  | value => value.literal

def kindName : Value → String
  | .null => "NoneType"
  | .bool _ => "bool"
  | .int _ => "int"
  | .float _ => "float"
  | .text _ => "str"
  | .bytes _ => "bytes"
  | .list _ => "list"
  | .tuple _ => "tuple"
  | .set _ => "set"
  | .frozenSet _ => "frozenset"
  | .mapping _ => "dict"
  | .field (.exact _) => "Exact"
  | .field (.alternation _) => "Alternation"
  | .field (.range _ _) => "Range"
  | .field .star => "Star"
  | .field (.repetition _) => "Repetition"
  | .field (.shifted _ _) => "ShiftedRepetition"
  | .rule _ => "Rule"

end Value

end Timetable
