import Timetable.Value

/-! Decisions: cells that are assigned once. The first commitment counts and later ones are
ignored. -/

set_option autoImplicit false

namespace Timetable

inductive Outcome where
  | proceed
  | cancel
  | redirect
  deriving DecidableEq, Repr, Inhabited

def Outcome.name : Outcome → String
  | .proceed => "proceed"
  | .cancel => "cancel"
  | .redirect => "redirect"

def Outcome.all : List Outcome := [.proceed, .cancel, .redirect]

def Outcome.ofName? (name : String) : Option Outcome :=
  all.find? fun outcome => decide (outcome.name = name)

def Outcome.ofLoose (value : Value) : Except Failure Outcome :=
  let named :=
    match value with
    | .text name => ofName? name
    | _ => none
  match named with
  | some outcome => .ok outcome
  | none => .error ⟨"ValueError", value.literal ++ " is not a valid Outcome"⟩

structure Decision (α : Type) where
  outcome : Option Outcome
  callback : Option α

namespace Decision

variable {α : Type}

def undecided : Decision α := ⟨none, none⟩

instance : Inhabited (Decision α) := ⟨undecided⟩

def isCommitted (decision : Decision α) : Bool :=
  decision.outcome.isSome

/-- The decision after a commitment, and whether the commitment counted. -/
def commit (decision : Decision α) (outcome : Outcome) (callback : Option α) :
    Decision α × Bool :=
  match decision.outcome with
  | some _ => (decision, false)
  | none => (⟨some outcome, callback⟩, true)

/-- Waits for a commitment that nobody else can make: whether there is one, and the time at which
the wait is over. -/
def wait (decision : Decision α) (clock : Int) (timeout : Option Int) : Bool × Int :=
  if decision.isCommitted then (true, clock) else (false, clock + max 0 (timeout.getD 0))

inductive Step (α : Type) where
  | commit (outcome : Value) (callback : Option α)
  | wait (timeout : Option Int)
  | advance (micros : Int)

structure Answer (α : Type) where
  result : Except Failure Bool
  /-- The wait that the step was, by the time at which it began and its timeout. -/
  waited : Option (Int × Option Int)
  decision : Decision α
  clock : Int

def perform (decision : Decision α) (clock : Int) : Step α → Answer α
  | .commit outcome callback =>
    match Outcome.ofLoose outcome with
    | .error failure => ⟨.error failure, none, decision, clock⟩
    | .ok outcome =>
      let (decision, won) := decision.commit outcome callback
      ⟨.ok won, none, decision, clock⟩
  | .wait timeout =>
    let (committed, later) := decision.wait clock timeout
    ⟨.ok committed, some (clock, timeout), decision, later⟩
  | .advance micros => ⟨.ok true, none, decision, clock + max 0 micros⟩

def run (decision : Decision α) (clock : Int) : List (Step α) → List (Answer α)
  | [] => []
  | step :: rest =>
    let answer := decision.perform clock step
    answer :: run answer.decision answer.clock rest

theorem commit_committed (decision : Decision α) (outcome : Outcome) (callback : Option α) :
    (decision.commit outcome callback).1.isCommitted = true := by
  unfold commit isCommitted
  split <;> simp_all

theorem commit_snd (decision : Decision α) (outcome : Outcome) (callback : Option α) :
    (decision.commit outcome callback).2 = !decision.isCommitted := by
  unfold commit isCommitted
  split <;> simp_all

end Decision

end Timetable
