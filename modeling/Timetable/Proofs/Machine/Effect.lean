import Timetable.Proofs.Machine.Operations

/-! What the operations of a program do to chains.

All that an operation can do to the chains of tasks is to start idle tasks and to stop running ones;
the rest of it is neutral. The deeds of a state tell which tasks its next step starts and stops, and
which runs and settlements it brings to their end.
-/

set_option autoImplicit false

namespace Timetable

def Operation.asksFor (name : String) : Operation → Bool
  | .start other _ _ | .restart other _ => decide (other = name)
  | _ => false

def Work.resumes (name : String) : Work → Bool
  | .resume other _ _ => decide (other = name)
  | _ => false

def Frame.asksFor (name : String) : Frame → Bool
  | .perform operation => operation.asksFor name
  | .call work _ => work.resumes name
  | _ => false

/-- What a step does to the chain of a task. -/
inductive Deed where
  /-- An idle task is started. -/
  | started (task : Nat)
  /-- A stop is accepted, and issued against a trigger. -/
  | stopped (task trigger : Nat) (callback : Work)
  /-- A call of the work of a task, made by a trigger, has come to its end. -/
  | ran (task trigger : Nat) (mode : Mode) (outcome : Signal)
  /-- The callback of a stop is called. -/
  | settled (agent : Agent) (task : Nat) (callback : Work) (args : List Value)

namespace State

def startDeeds (state : State) (number : Nat) : List Deed :=
  if (state.entry number).isRunning then [] else [.started number]

def stopDeeds (state : State) (callback : Work) : List String → List Deed
  | [] => []
  | name :: rest =>
    match state.find? name with
    | none => state.stopDeeds callback rest
    | some number =>
      ((state.stoppable? number).map fun trigger => Deed.stopped number trigger callback).toList ++
        (state.stopChain number callback).1.stopDeeds callback rest

def operationDeeds (state : State) : Operation → List Deed
  | .start name _ _ =>
    match state.find? name with
    | none => []
    | some number => state.startDeeds number
  | .restart name args =>
    match state.find? name with
    | none => []
    | some number =>
      match state.stoppable? number with
      | some trigger => [.stopped number trigger (.resume name (state.entry number).mode args)]
      | none => state.startDeeds number
  | .stop (some name) callback =>
    (state.callbackOf callback).1.stopDeeds (state.callbackOf callback).2 [name]
  | .stop none callback | .shutdown callback _ =>
    (state.callbackOf callback).1.stopDeeds (state.callbackOf callback).2
      (state.callbackOf callback).1.names
  | _ => []

def frameDeeds (state : State) (agent : Agent) : Signal → Frame → List Deed
  | .ok _, .perform operation => state.operationDeeds operation
  | .ok _, .call (.resume name _ _) _ =>
    match state.find? name with
    | none => []
    | some number => state.startDeeds number
  | .ok _, .callback number work args => [.settled agent number work args]
  | .ok value, .fired number trigger _ mode _ => [.ran number trigger mode (.ok value)]
  | .error failure, .fired number trigger _ mode _ =>
    if failure.leaves then [] else [.ran number trigger mode (.error failure)]
  | _, _ => []

/-- What the next step does to chains. -/
def deeds (state : State) : List Deed :=
  match state.active with
  | some ⟨agent, frame :: _, signal⟩ => state.frameDeeds agent signal frame
  | _ => []

/-- `Effect state deeds later`: neutral changes, starts of idle tasks and stops of running tasks lead
from `state` to `later`. -/
inductive Effect : State → List Deed → State → Prop where
  | neutral {state later : State} : Neutral state later → Effect state [] later
  | start {state : State} {number : Nat} (mode : Mode) (args : List Value) :
      number ∈ state.registered → (state.entry number).isRunning = false →
      Effect state [.started number] (state.startChain number mode args).1
  | stop {state : State} {number trigger : Nat} {callback : Work} :
      (state.entry number).status = .running → (state.entry number).trigger = some trigger →
      callback.isCallback = true →
      Effect state [.stopped number trigger callback] (state.stopChain number callback).1
  | trans {state middle later : State} {first second : List Deed} :
      Effect state first middle → Effect middle second later →
      Effect state (first ++ second) later

variable {state : State}

theorem active_of_deed {deed : Deed} (member : deed ∈ state.deeds) :
    ∃ agent frame rest signal, state.active = some ⟨agent, frame :: rest, signal⟩ ∧
      deed ∈ state.frameDeeds agent signal frame := by
  unfold deeds at member
  split at member
  · next agent frame rest signal active => exact ⟨agent, frame, rest, signal, active, member⟩
  · cases member

theorem Neutral.effect {later : State} (neutral : Neutral state later) : Effect state [] later :=
  .neutral neutral

theorem startChain_effect {number : Nat} (member : number ∈ state.registered) (mode : Mode)
    (args : List Value) :
    Effect state (state.startDeeds number) (state.startChain number mode args).1 := by
  unfold startDeeds
  split
  · next running =>
    unfold startChain
    rw [if_pos running]
    exact .neutral (.refl _)
  · next idle => exact .start mode args member (by simpa using idle)

theorem not_mem_startDeeds {number trigger task : Nat} {callback : Work} :
    .stopped number trigger callback ∉ state.startDeeds task := by
  unfold startDeeds
  split <;> simp

theorem startNamed_effect (name : String) (mode : Mode) (args : List Value) :
    Effect state
      (match state.find? name with
        | none => []
        | some number => state.startDeeds number)
      (state.startNamed name mode args).1 := by
  unfold startNamed
  cases found : state.find? name with
  | none => exact .neutral (Unmoved.tell _ _ _).neutral
  | some number => exact startChain_effect (find?_mem found).1 mode args

theorem stopChain_effect {callback : Work} (called : callback.isCallback = true) (number : Nat) :
    Effect state
      ((state.stoppable? number).map fun trigger => Deed.stopped number trigger callback).toList
      (state.stopChain number callback).1 := by
  cases found : state.stoppable? number with
  | none => rw [stopChain_none found]; exact .neutral (.refl _)
  | some trigger =>
    obtain ⟨running, held⟩ := stoppable?_some found
    exact .stop running held called

theorem stopNamed_effect {callback : Work} (called : callback.isCallback = true)
    (names : List String) :
    Effect state (state.stopDeeds callback names) (state.stopNamed callback names).1 := by
  induction names generalizing state with
  | nil => exact .neutral (.refl _)
  | cons name rest ih =>
    unfold stopDeeds stopNamed
    cases state.find? name with
    | none => exact ih
    | some number => exact (stopChain_effect called number).trans ih

theorem stopGiven_effect (callback : Option Callable) (names : List String) :
    Effect state ((state.callbackOf callback).1.stopDeeds (state.callbackOf callback).2 names)
      ((state.callbackOf callback).1.stopNamed (state.callbackOf callback).2 names).1 :=
  (callbackOf_neutral callback).effect.trans
    (stopNamed_effect (Work.isCallback_of_isGiven (callbackOf_given callback)) names)

theorem operationDeeds_of_isHarmless {operation : Operation}
    (harmless : operation.isHarmless = true) : state.operationDeeds operation = [] := by
  cases operation <;> first | rfl | cases harmless

theorem perform_effect (tidy : state.Tidy) (agent : Agent) (operation : Operation) :
    Effect state (state.operationDeeds operation) (state.perform agent operation).1 := by
  have performed := state.perform_performed tidy agent operation
  generalize state.perform agent operation = result at performed ⊢
  cases performed with
  | harmless harmless tame =>
    rw [operationDeeds_of_isHarmless harmless]
    exact tame.changes.neutral.effect
  | unknown id asked =>
    rcases asked with rfl | ⟨fn, rfl⟩
    · exact .neutral (.refl _)
    · exact .neutral (.refl _)
  | cancels id found =>
    exact .neutral (.commit (labelled?_free tidy found) .cancel fun _ called => by cases called)
  | redirects id fn found =>
    have handed := (handOver_harmless state fn).neutral
    have free := handed.free _ (labelled?_free tidy found)
    refine .neutral (handed.trans (.commit free .redirect fun work called => ?_))
    cases called
    exact state.handOver_given fn
  | removes name => exact .neutral (.removeTask state name)
  | starts name mode args => exact startNamed_effect name mode args
  | restartsNone name args missing =>
    rw [operationDeeds, missing]
    exact .neutral (.refl _)
  | restartsNow name args found absent =>
    simp only [operationDeeds, found, absent]
    exact startChain_effect (find?_mem found).1 _ args
  | restartsLater name args found stoppable =>
    obtain ⟨running, held⟩ := stoppable?_some stoppable
    simp only [operationDeeds, found, stoppable]
    exact .stop running held rfl
  | stopsOne name callback => exact stopGiven_effect callback [name]
  | stopsAll callback => exact stopGiven_effect callback (state.callbackOf callback).1.names
  | shutsDown callback timeout =>
    exact stopGiven_effect callback (state.callbackOf callback).1.names

end State

end Timetable
