import Mathlib.Logic.Relation
import Timetable.Proofs.Machine.Neutral

/-! What operations come to.

Most operations are harmless: they make triggers for the program and start them, add tasks, and give
tasks other rules and functions. The changes that these are put together of are listed once, and so is
what becomes of the other operations. What is to be shown of every operation is shown by these cases.
-/

set_option autoImplicit false

namespace Timetable

def Operation.isHarmless : Operation → Bool
  | .create _ _ _ _ _ _ | .schedule _ _ _ _ _ | .startTrigger _ | .join _ _ | .add _ _ _
  | .updateRule _ _ | .updateFn _ _ | .status _ | .names | .inspect _ | .advance _
  | .failStarts _ => true
  | .cancel _ | .redirect _ _ | .remove _ | .start _ _ _ | .restart _ _ | .stop _ _
  | .shutdown _ _ => false

/-! ### Frames that operations ask for -/

def Frame.isPlain : Frame → Bool
  | .script _ _ _ _ | .woke _ | .perform _ | .inner _ | .give _ | .report _ | .sunk _
  | .joining _ _ _ | .interrupted => true
  | .call _ _ | .countdown _ | .waited _ | .dispatched _ _ | .fired _ _ _ _ _
  | .callback _ _ _ | .calledBack _ _ _ => false

def Frame.isTacit : Frame → Bool
  | .report _ => false
  | frame => frame.isPlain

theorem Frame.isPlain_of_isTacit {frame : Frame} (tacit : frame.isTacit = true) :
    frame.isPlain = true := by
  cases frame with
  | report report => rfl
  | _ => exact tacit

namespace Move

def frames : Move → List Frame
  | .resume frames _ | .wait frames _ _ => frames

def IsPlain (move : Move) : Prop :=
  ∀ added ∈ move.frames, added.isPlain = true

theorem IsPlain.resume (signal : Signal) : (Move.resume [] signal).IsPlain :=
  fun _ member => absurd member List.not_mem_nil

theorem IsPlain.give (value : Value) : (Move.give value).IsPlain := .resume _

theorem IsPlain.fail (failure : Failure) : (Move.fail failure).IsPlain := .resume _

def IsTacit (move : Move) : Prop :=
  ∀ added ∈ move.frames, added.isTacit = true

theorem IsTacit.resume (signal : Signal) : (Move.resume [] signal).IsTacit :=
  fun _ member => absurd member List.not_mem_nil

theorem IsTacit.give (value : Value) : (Move.give value).IsTacit := .resume _

theorem IsTacit.fail (failure : Failure) : (Move.fail failure).IsTacit := .resume _

theorem IsTacit.isPlain {move : Move} (tacit : move.IsTacit) : move.IsPlain :=
  fun added member => Frame.isPlain_of_isTacit (tacit added member)

end Move

namespace State

variable {state later : State} {agent : Agent} {number trigger : Nat}

theorem sleep_tacit (micros : Int) {frames : List Frame}
    (tacit : ∀ added ∈ frames, added.isTacit = true) :
    (state.sleep agent micros frames).IsTacit := by
  unfold sleep
  dsimp only
  split
  · split
    · exact fun added member => by rw [List.mem_singleton.mp member]; rfl
    · exact tacit
  · exact tacit

theorem join_tacit (trigger : Nat) (timeout : Option Int) {frames : List Frame}
    (tacit : ∀ added ∈ frames, added.isTacit = true) :
    (state.join agent trigger timeout frames).IsTacit := by
  unfold join
  dsimp only
  split
  · split
    · exact .fail _
    · exact tacit
    · split
      · exact .fail _
      · split
        · exact tacit
        · split <;> exact tacit
  · exact tacit

theorem act_tacit (name : String) (turn : Nat) (args : List Value) (actions : List Action) :
    (state.act agent name turn args actions).IsTacit := by
  unfold act
  dsimp only
  split
  · exact .give _
  · split
    · exact sleep_tacit _ (by simp [Frame.isTacit, Frame.isPlain])
    · exact .fail _
    · split
      · exact .fail _
      · simp [Move.IsTacit, Move.go, Move.frames, Frame.isTacit, Frame.isPlain]
    · exact .give _
    · exact .resume _
    · exact .give _
    · simp [Move.IsTacit, Move.go, Move.frames, Frame.isTacit, Frame.isPlain]

theorem callLibrary_tacit (state : State) (agent : Agent) (called : Library.Function)
    (args : List Value) : (state.callLibrary agent called args).2.IsTacit := by
  unfold callLibrary
  dsimp only
  split
  · exact .fail _
  · exact sleep_tacit _ (by simp [Frame.isTacit, Frame.isPlain])
  · exact .resume _

theorem callLibrary_state (state : State) (agent : Agent) (called : Library.Function)
    (args : List Value) :
    (state.callLibrary agent called args).1 = state ∨
      (state.callLibrary agent called args).1 =
        state.record (.call state.elapsed called.name args) := by
  unfold callLibrary
  dsimp only
  split
  all_goals
    split
    · exact .inl rfl
    · exact .inr rfl

/-! ### Names of triggers -/

theorem mem_relabel {id : String} {label : String × Nat} {labels : List (String × Nat)}
    (member : label ∈ relabel id trigger labels) : label.2 = trigger ∨ label ∈ labels := by
  induction labels with
  | nil => exact .inl (congrArg Prod.snd (List.mem_singleton.mp member))
  | cons first rest ih =>
    unfold relabel at member
    split at member
    · rcases List.mem_cons.mp member with rfl | member
      · exact .inl rfl
      · exact .inr (List.mem_cons_of_mem _ member)
    · rcases List.mem_cons.mp member with rfl | member
      · exact .inr List.mem_cons_self
      · exact (ih member).imp_right (List.mem_cons_of_mem _)

theorem Neutral.label (within : trigger < state.triggers.size)
    (free : state.owner trigger = none) (name : String) :
    Neutral state (state.label name trigger) := by
  refine ⟨rfl, rfl, rfl, rfl, Nat.le_refl _, Nat.le_refl _, fun _ => rfl, fun _ _ => rfl,
    fun _ _ _ => rfl, fun _ => id, fun _ => id, fun _ => .inl rfl,
    fun tidy => { tidy with labels := ?_ }⟩
  intro label member
  rcases mem_relabel member with same | member
  · rw [same]; exact ⟨within, free⟩
  · exact tidy.labels label member

theorem labelled?_mem {id : String} (found : state.labelled? id = some trigger) :
    (id, trigger) ∈ state.labels := by
  obtain ⟨before, after, same, -⟩ := List.lookup_eq_some_iff.mp found
  exact same ▸ List.mem_append_right before List.mem_cons_self

theorem labelled?_free (tidy : state.Tidy) {id : String}
    (found : state.labelled? id = some trigger) : state.owner trigger = none :=
  (tidy.labels (id, trigger) (labelled?_mem found)).2

theorem labelled?_within (tidy : state.Tidy) {id : String}
    (found : state.labelled? id = some trigger) : trigger < state.triggers.size :=
  (tidy.labels (id, trigger) (labelled?_mem found)).1

theorem handOver_given (state : State) (callable : Callable) :
    (state.handOver callable).2.isGiven = true := by
  cases callable <;> rfl

theorem callbackOf_given (callback : Option Callable) :
    (state.callbackOf callback).2.isGiven = true := by
  unfold callbackOf
  split
  · rfl
  · dsimp only; split <;> rfl
  · exact handOver_given _ _

/-! ### Harmless changes -/

inductive Harmless (state : State) : State → Prop where
  /-- Nothing becomes of tasks and of triggers, and nothing is recorded. -/
  | aside {later : State} : Unmoved state later → later.events = state.events →
      Harmless state later
  | make (due : Option DateTime) {work : Work} (args : List Value) {errors : ErrorTarget}
      (name : String) : work.isGiven = true → (∀ number, errors ≠ .entry number) →
      Harmless state (state.makeTrigger due work args errors name)
  | startThread {trigger : Nat} : state.owner trigger = none →
      Harmless state (state.startThread trigger).1
  | label {trigger : Nat} (id : String) : trigger < state.triggers.size →
      state.owner trigger = none → Harmless state (state.label id trigger)
  | addTask (name : String) (rule : Rule) {work : Work} : work.isGiven = true →
      Harmless state (state.addTask name rule work).1
  | updateRule (number : Nat) (rule : Rule) : Harmless state (state.updateRule number rule)
  | updateWork (number : Nat) {work : Work} : work.isGiven = true →
      Harmless state (state.updateWork number work)

abbrev HarmlessRun : State → State → Prop :=
  Relation.ReflTransGen Harmless

theorem Harmless.neutral (harmless : Harmless state later) : Neutral state later := by
  cases harmless with
  | aside unmoved => exact unmoved.neutral
  | make due args name given free => exact .makeTrigger state due args name given free
  | startThread free => exact .startThread free
  | label id within free => exact .label within free id
  | addTask name rule given => exact .addTask state name rule given
  | updateRule number rule => exact .updateRule state number rule
  | updateWork number given => exact .updateWork state number given

theorem HarmlessRun.neutral (changes : HarmlessRun state later) : Neutral state later := by
  induction changes with
  | refl => exact .refl _
  | tail _ harmless ih => exact ih.trans harmless.neutral

theorem handOver_harmless (state : State) (callable : Callable) :
    Harmless state (state.handOver callable).1 :=
  .aside (.handOver _ _) (by cases callable <;> rfl)

theorem callbackOf_harmless (callback : Option Callable) :
    HarmlessRun state (state.callbackOf callback).1 := by
  unfold callbackOf
  split
  · exact .refl
  · exact .refl
  · exact .single (handOver_harmless _ _)

theorem callbackOf_neutral (callback : Option Callable) :
    Neutral state (state.callbackOf callback).1 :=
  (callbackOf_harmless callback).neutral

theorem makeFor_harmless (state : State) (due : Option DateTime) (fn : Callable)
    (args : List Value) (sink : Option (List Action)) (name : String) :
    HarmlessRun state (state.makeFor due fn args sink name) := by
  have handed : HarmlessRun state (state.handOver fn).1 := .single (handOver_harmless state fn)
  have given := state.handOver_given fn
  cases sink with
  | none => exact handed.tail (.make due args name given (by rintro _ ⟨⟩))
  | some actions =>
    have counted : Harmless (state.handOver fn).1
        { (state.handOver fn).1 with turns := (state.handOver fn).1.turns.add 0 } :=
      .aside ⟨rfl, rfl, rfl, rfl, rfl, rfl, rfl, rfl⟩ rfl
    exact (handed.tail counted).tail (.make due args name given (by rintro _ ⟨⟩))

theorem makeFor_within (state : State) (due : Option DateTime) (fn : Callable)
    (args : List Value) (sink : Option (List Action)) (name : String) :
    state.triggers.size < (state.makeFor due fn args sink name).triggers.size := by
  have handed : (state.handOver fn).1.triggers = state.triggers :=
    (Unmoved.handOver state fn).triggers
  have grown : ∀ item, state.triggers.size < ((state.handOver fn).1.triggers.add item).size := by
    intro item
    rw [handed, Store.size_add]
    exact Nat.lt_succ_self _
  cases sink with
  | none => exact grown _
  | some actions => exact grown _

/-! ### Harmless operations -/

structure Tame (state : State) (result : State × Move) : Prop where
  changes : HarmlessRun state result.1
  tacit : result.2.IsTacit

namespace Tame

theorem give (changes : HarmlessRun state later) (value : Value) :
    Tame state (later, .give value) :=
  ⟨changes, .give _⟩

theorem fail (changes : HarmlessRun state later) (failure : Failure) :
    Tame state (later, .fail failure) :=
  ⟨changes, .fail _⟩

theorem onTrigger (id : String) (change : Nat → State × Move)
    (tame : ∀ trigger, state.labelled? id = some trigger → Tame state (change trigger)) :
    Tame state (state.onTrigger id change) := by
  unfold State.onTrigger
  split
  · next found => exact tame _ found
  · exact .fail .refl _

theorem onTask (name : String) (absent : Value) (change : Nat → State × Move)
    (tame : ∀ number, Tame state (change number)) :
    Tame state (state.onTask name absent change) := by
  unfold State.onTask
  split
  · exact tame _
  · exact .give .refl _

end Tame

theorem schedule_tame (id : String) (due : Option DateTime) (fn : Callable) (args : List Value)
    (sink : Option (List Action)) :
    Tame state (state.perform agent (.schedule id due fn args sink)) := by
  have made := makeFor_harmless state due fn args sink ""
  have beyond := state.owner_of_le (Nat.le_refl _)
  have begun := Harmless.startThread (made.neutral.free _ beyond)
  have within := Nat.lt_of_lt_of_le (state.makeFor_within due fn args sink "")
    begun.neutral.triggers
  have started : HarmlessRun state _ := made.tail begun
  have free := started.neutral.free _ beyond
  unfold perform
  dsimp only
  generalize (state.makeFor due fn args sink "").startThread state.triggers.size = result
    at started within free ⊢
  obtain ⟨after, failure | _⟩ := result
  · exact .fail started _
  · exact .give (started.tail (.label id within free)) _

theorem startTrigger_tame (tidy : state.Tidy) (id : String) :
    Tame state (state.perform agent (.startTrigger id)) := by
  refine .onTrigger id _ fun trigger found => ?_
  have started : HarmlessRun state (state.startThread trigger).1 :=
    .single (.startThread (labelled?_free tidy found))
  generalize state.startThread trigger = result at started ⊢
  obtain ⟨after, failure | _⟩ := result
  · exact .fail started _
  · exact .give started _

theorem add_tame (name : String) (rule : Value) (fn : Callable) :
    Tame state (state.perform agent (.add name rule fn)) := by
  have handed : HarmlessRun state (state.handOver fn).1 := .single (handOver_harmless state fn)
  unfold perform
  dsimp only
  split
  · exact .fail .refl _
  · split
    · exact .give (handed.tail (.addTask name _ (handOver_given state fn))) _
    · exact .fail handed _

theorem updateFn_tame (name : String) (fn : Callable) :
    Tame state (state.perform agent (.updateFn name fn)) := by
  have handed : HarmlessRun state (state.handOver fn).1 := .single (handOver_harmless state fn)
  refine .onTask name _ _ fun number => ?_
  dsimp only
  split
  · exact .give (handed.tail (.updateWork number (handOver_given state fn))) _
  · exact .fail handed _

theorem perform_tame (tidy : state.Tidy) {operation : Operation}
    (harmless : operation.isHarmless = true) : Tame state (state.perform agent operation) := by
  cases operation with
  | create id due fn args sink name =>
    have made := makeFor_harmless state due fn args sink name
    have free := made.neutral.free _ (state.owner_of_le (Nat.le_refl _))
    exact .give (made.tail (.label id (state.makeFor_within due fn args sink name) free)) _
  | schedule id due fn args sink => exact schedule_tame id due fn args sink
  | startTrigger id => exact startTrigger_tame tidy id
  | join id timeout =>
    exact .onTrigger id _ fun trigger _ =>
      ⟨.refl, join_tacit trigger timeout fun _ member => absurd member List.not_mem_nil⟩
  | add name rule fn => exact add_tame name rule fn
  | updateRule name rule =>
    refine .onTask name _ _ fun number => ?_
    split
    · exact .fail .refl _
    · exact .give (.single (.updateRule number _)) _
  | updateFn name fn => exact updateFn_tame name fn
  | status name => exact .onTask name _ _ fun _ => .give .refl _
  | names => exact .give .refl _
  | inspect name =>
    cases name with
    | some name => exact .onTask name _ _ fun _ => .give .refl _
    | none => exact .give .refl _
  | advance micros => exact ⟨.refl, sleep_tacit _ (by simp [Frame.isTacit, Frame.isPlain])⟩
  | failStarts count =>
    have counted : Harmless state { state with failingStarts := count } :=
      .aside ⟨rfl, rfl, rfl, rfl, rfl, rfl, rfl, rfl⟩ rfl
    exact .give (.single counted) _
  | cancel | redirect | remove | start | restart | stop | shutdown => cases harmless

/-! ### Stops -/

/-- The trigger that a stop of a task would be issued against. -/
def stoppable? (state : State) (number : Nat) : Option Nat :=
  match (state.entry number).status, (state.entry number).trigger with
  | .running, some trigger => some trigger
  | _, _ => none

theorem stoppable?_some (found : state.stoppable? number = some trigger) :
    (state.entry number).status = .running ∧ (state.entry number).trigger = some trigger := by
  unfold stoppable? at found
  split at found
  · next running held => exact ⟨running, held.trans found⟩
  · cases found

theorem stopChain_none (absent : state.stoppable? number = none) (callback : Work) :
    state.stopChain number callback = (state, false) := by
  unfold stoppable? at absent
  cases status : (state.entry number).status with
  | idle => simp only [stopChain, status]
  | running =>
    cases held : (state.entry number).trigger with
    | none => simp only [stopChain, status, held]
    | some trigger =>
      rw [status, held] at absent
      cases absent

theorem stopChain_some (found : state.stoppable? number = some trigger) (callback : Work) :
    (state.stopChain number callback).2 = true := by
  obtain ⟨running, held⟩ := stoppable?_some found
  simp only [stopChain, running, held]

/-! ### All operations -/

inductive Performed (state : State) (agent : Agent) : Operation → State × Move → Prop where
  | harmless {operation : Operation} {result : State × Move} : operation.isHarmless = true →
      Tame state result → Performed state agent operation result
  /-- A decision of a trigger that there is not. -/
  | unknown {operation : Operation} (id : String) :
      operation = .cancel id ∨ (∃ fn, operation = .redirect id fn) → state.labelled? id = none →
      Performed state agent operation (state, .fail (.unknownId id))
  | cancels {trigger : Nat} (id : String) : state.labelled? id = some trigger →
      Performed state agent (.cancel id) (giveFlag (state.commit trigger .cancel none))
  | redirects {trigger : Nat} (id : String) (fn : Callable) :
      state.labelled? id = some trigger →
      Performed state agent (.redirect id fn)
        (giveFlag ((state.handOver fn).1.commit trigger .redirect (some (state.handOver fn).2)))
  | removes (name : String) :
      Performed state agent (.remove name) (giveFlag (state.removeTask name))
  | starts (name : String) (mode : Mode) (args : List Value) :
      Performed state agent (.start name mode args) (state.startNamed name mode args)
  | restartsNone (name : String) (args : List Value) : state.find? name = none →
      Performed state agent (.restart name args) (state, .give (.bool false))
  /-- There is nothing to stop, and the restart is a start. -/
  | restartsNow {number : Nat} (name : String) (args : List Value) :
      state.find? name = some number → state.stoppable? number = none →
      Performed state agent (.restart name args)
        (state.startChain number (state.entry number).mode args)
  /-- The start is put off until the stop settles. -/
  | restartsLater {number trigger : Nat} (name : String) (args : List Value) :
      state.find? name = some number → state.stoppable? number = some trigger →
      Performed state agent (.restart name args)
        ((state.stopChain number (.resume name (state.entry number).mode args)).1,
          .give (.bool true))
  | stopsOne (name : String) (callback : Option Callable) :
      Performed state agent (.stop (some name) callback)
        (((state.callbackOf callback).1.stopNamed (state.callbackOf callback).2 [name]).1,
          .give (.int ((state.callbackOf callback).1.stopNamed (state.callbackOf callback).2
            [name]).2))
  | stopsAll (callback : Option Callable) :
      Performed state agent (.stop none callback)
        (((state.callbackOf callback).1.stopNamed (state.callbackOf callback).2
            (state.callbackOf callback).1.names).1,
          .give (.int ((state.callbackOf callback).1.stopNamed (state.callbackOf callback).2
            (state.callbackOf callback).1.names).2))
  | shutsDown (callback : Option Callable) (timeout : Option Int) :
      Performed state agent (.shutdown callback timeout)
        ((state.callbackOf callback).1.shutdown (state.callbackOf callback).2 timeout)

theorem restart_of_missing {name : String} (missing : state.find? name = none) (agent : Agent)
    (args : List Value) :
    state.perform agent (.restart name args) = (state, .give (.bool false)) := by
  simp only [perform, onTask, missing]

theorem restart_of_absent {name : String} (found : state.find? name = some number)
    (absent : state.stoppable? number = none) (agent : Agent) (args : List Value) :
    state.perform agent (.restart name args) =
      state.startChain number (state.entry number).mode args := by
  simp only [perform, onTask, found, stopChain_none absent]

theorem restart_of_stoppable {name : String} (found : state.find? name = some number)
    (stoppable : state.stoppable? number = some trigger) (agent : Agent) (args : List Value) :
    state.perform agent (.restart name args) =
      ((state.stopChain number (.resume name (state.entry number).mode args)).1,
        .give (.bool true)) := by
  have stopped := stopChain_some stoppable (.resume name (state.entry number).mode args)
  simp only [perform, onTask, found]
  generalize state.stopChain number (.resume name (state.entry number).mode args) = result
    at stopped
  obtain ⟨after, flag⟩ := result
  subst stopped
  rfl

theorem restart_performed (name : String) (args : List Value) :
    Performed state agent (.restart name args) (state.perform agent (.restart name args)) := by
  cases found : state.find? name with
  | none => exact restart_of_missing found agent args ▸ .restartsNone name args found
  | some number =>
    cases stoppable : state.stoppable? number with
    | none =>
      exact restart_of_absent found stoppable agent args ▸ .restartsNow name args found stoppable
    | some trigger =>
      exact restart_of_stoppable found stoppable agent args ▸
        .restartsLater name args found stoppable

theorem perform_performed (tidy : state.Tidy) (agent : Agent) (operation : Operation) :
    Performed state agent operation (state.perform agent operation) := by
  by_cases harmless : operation.isHarmless = true
  · exact .harmless harmless (perform_tame tidy harmless)
  · cases operation with
    | cancel id =>
      simp only [perform, onTrigger]
      cases found : state.labelled? id with
      | none => exact .unknown id (.inl rfl) found
      | some trigger => exact .cancels id found
    | redirect id fn =>
      simp only [perform, onTrigger]
      cases found : state.labelled? id with
      | none => exact .unknown id (.inr ⟨fn, rfl⟩) found
      | some trigger => exact .redirects id fn found
    | remove name => exact .removes name
    | start name mode args => exact .starts name mode args
    | restart name args => exact restart_performed name args
    | stop name callback =>
      cases name with
      | some name => exact .stopsOne name callback
      | none => exact .stopsAll callback
    | shutdown callback timeout => exact .shutsDown callback timeout
    | _ => exact absurd rfl harmless

end State

end Timetable
