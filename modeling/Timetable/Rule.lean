import Timetable.Field

/-! Rules: for each part the fields of which one has to hold.

The fields of a part are alternatives, and the parts are requirements that all have to be met.
-/

set_option autoImplicit false

namespace Timetable

structure Rule where
  dayOfMonth : List Field
  month : List Field
  weekday : List Field
  dayOfYear : List Field
  weekOfYear : List Field
  hour : List Field
  minute : List Field
  second : List Field
  deriving DecidableEq, Repr

namespace Rule

def midnight : Rule where
  dayOfMonth := [.star]
  month := [.star]
  weekday := [.star]
  dayOfYear := [.star]
  weekOfYear := [.star]
  hour := [.exact 0]
  minute := [.exact 0]
  second := [.exact 0]

instance : Inhabited Rule := ⟨midnight⟩

def get (rule : Rule) : Part → List Field
  | .dayOfMonth => rule.dayOfMonth
  | .month => rule.month
  | .weekday => rule.weekday
  | .dayOfYear => rule.dayOfYear
  | .weekOfYear => rule.weekOfYear
  | .hour => rule.hour
  | .minute => rule.minute
  | .second => rule.second

def set (rule : Rule) (part : Part) (fields : List Field) : Rule :=
  match part with
  | .dayOfMonth => { rule with dayOfMonth := fields }
  | .month => { rule with month := fields }
  | .weekday => { rule with weekday := fields }
  | .dayOfYear => { rule with dayOfYear := fields }
  | .weekOfYear => { rule with weekOfYear := fields }
  | .hour => { rule with hour := fields }
  | .minute => { rule with minute := fields }
  | .second => { rule with second := fields }

def ofParts (fields : Part → List Field) : Rule where
  dayOfMonth := fields .dayOfMonth
  month := fields .month
  weekday := fields .weekday
  dayOfYear := fields .dayOfYear
  weekOfYear := fields .weekOfYear
  hour := fields .hour
  minute := fields .minute
  second := fields .second

@[simp] theorem get_ofParts (fields : Part → List Field) (part : Part) :
    (ofParts fields).get part = fields part := by
  cases part <;> rfl

@[simp] theorem ofParts_get (rule : Rule) : ofParts rule.get = rule := by
  cases rule; rfl

theorem get_set (rule : Rule) (part other : Part) (fields : List Field) :
    (rule.set part fields).get other = if other = part then fields else rule.get other := by
  cases part <;> cases other <;> rfl

theorem ext_get {left right : Rule} (same : ∀ part, left.get part = right.get part) :
    left = right := by
  rw [← ofParts_get left, ← ofParts_get right, funext same]

def isWritable (rule : Rule) : Bool :=
  Part.all.all fun part => (rule.get part).all Field.isWritable

def describe (rule : Rule) : String :=
  " ".intercalate <| Part.all.map fun part =>
    part.name ++ "=" ++ "|".intercalate ((rule.get part).map Field.text)

end Rule

end Timetable
