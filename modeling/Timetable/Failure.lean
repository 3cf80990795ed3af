import Timetable.Text.Digit
import Timetable.Text.Quoted

/-! What a call can end in other than a result, as reports show it. -/

set_option autoImplicit false

namespace Timetable

structure Failure where
  kind : String
  text : String
  deriving DecidableEq, Repr, Inhabited

namespace Failure

def message (failure : Failure) : String :=
  if failure.kind = "KeyError" then Text.literal failure.text else failure.text

def literal (failure : Failure) : String :=
  failure.kind ++ "(" ++ Text.literal failure.text ++ ")"

/-- Requests to leave are no errors: no handler of errors stops them. Nor does one stop the end of a
run that is given up. -/
def leaves (failure : Failure) : Bool :=
  ["SystemExit", "KeyboardInterrupt", "GeneratorExit", "BaseException", "Unfinished"].contains
    failure.kind

def isExpected (failure : Failure) : Bool :=
  ["CadenceError", "RuleError", "CronError", "ConfigError", "TriggerError"].contains failure.kind

/-- A run that is given up before its end. -/
def unfinished : Failure := ⟨"Unfinished", "the run was given up"⟩

def interrupt : Failure := ⟨"KeyboardInterrupt", ""⟩

def unknownId (id : String) : Failure := ⟨"KeyError", id⟩

/-- A text has more digits of a number than are read. -/
def tooManyDigits (digits : Nat) : Failure :=
  ⟨"ValueError", "Exceeds the limit (" ++ Text.ofNat Text.digitLimit ++
    " digits) for integer string conversion: value has " ++ Text.ofNat digits ++
    " digits; use sys.set_int_max_str_digits() to increase the limit"⟩

/-- A number has more digits than are written. -/
def unwritable : Failure :=
  ⟨"ValueError", "Exceeds the limit (" ++ Text.ofNat Text.digitLimit ++
    " digits) for integer string conversion; use sys.set_int_max_str_digits() to increase the limit"⟩

def leave (code : String) : Failure := ⟨"SystemExit", code⟩

end Failure

inductive Fault where
  | zeroModulus
  | zeroStep
  | hourOutside
  | minuteOutside
  | secondOutside
  /-- A component of a time that no 64-bit integer holds. -/
  | componentTooWide
  /-- A component of a time above every 32-bit integer. -/
  | componentAbove
  /-- A component of a time below every 32-bit integer. -/
  | componentBelow
  | outsideCalendar
  | noSuchYear (year : Nat)
  | spanAbove (days : Int)
  /-- A span of time whose days no 32-bit integer counts. -/
  | spanTooWide
  | noTime
  | notCalendarPart (name : String)
  | unknownPart (name : String)
  /-- A number of runs above every 64-bit integer. -/
  | countAbove
  deriving DecidableEq, Repr

def Fault.failure : Fault → Failure
  | .zeroModulus => ⟨"ZeroDivisionError", "integer modulo by zero"⟩
  | .zeroStep => ⟨"ValueError", "range() arg 3 must not be zero"⟩
  | .hourOutside => ⟨"ValueError", "hour must be in 0..23"⟩
  | .minuteOutside => ⟨"ValueError", "minute must be in 0..59"⟩
  | .secondOutside => ⟨"ValueError", "second must be in 0..59"⟩
  | .componentTooWide => ⟨"OverflowError", "Python int too large to convert to C long"⟩
  | .componentAbove => ⟨"OverflowError", "signed integer is greater than maximum"⟩
  | .componentBelow => ⟨"OverflowError", "signed integer is less than minimum"⟩
  | .outsideCalendar => ⟨"OverflowError", "date value out of range"⟩
  | .noSuchYear year => ⟨"ValueError", "year " ++ Text.ofNat year ++ " is out of range"⟩
  | .spanAbove days =>
    ⟨"OverflowError", "days=" ++ Text.ofInt days ++ "; must have magnitude <= 999999999"⟩
  | .spanTooWide => ⟨"OverflowError", "Python int too large to convert to C int"⟩
  | .noTime => ⟨"AttributeError", "'NoneType' object has no attribute 'tzinfo'"⟩
  | .notCalendarPart name => ⟨"ValueError", name ++ " is not a calendar date-part"⟩
  | .unknownPart name => ⟨"KeyError", name⟩
  | .countAbove =>
    ⟨"ValueError",
      "Stop argument for islice() must be None or an integer: 0 <= x <= sys.maxsize."⟩

end Timetable
