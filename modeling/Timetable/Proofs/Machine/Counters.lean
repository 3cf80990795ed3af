import Timetable.Proofs.Chain.Local

/-! The counters of tasks.

Runs and errors of a task are counted in its entry, and reports of errors go to sinks. Most of what a
machine does counts nothing and calls no sink. An error is counted where its report is made; the move
that is asked for then begins with that report.
-/

set_option autoImplicit false

namespace Timetable

structure Tally where
  runs : Nat
  errors : Nat
  lastError : Option String

def Tally.after (tally : Tally) (reports : List Report) : Tally where
  runs := tally.runs
  errors := tally.errors + reports.length
  lastError := (reports.getLast?.map Report.message).or tally.lastError

theorem Tally.after_append (tally : Tally) (first second : List Report) :
    (tally.after first).after second = tally.after (first ++ second) := by
  have last : ((first ++ second).getLast?.map Report.message).or tally.lastError =
      (second.getLast?.map Report.message).or
        ((first.getLast?.map Report.message).or tally.lastError) := by
    rw [List.getLast?_append, ← Option.or_assoc]
    cases second.getLast? <;> rfl
  simp only [after, List.length_append, Nat.add_assoc, last]

def Entry.tally (entry : Entry) : Tally :=
  ⟨entry.runs, entry.errors, entry.lastError⟩

theorem Entry.tally_release (entry : Entry) (trigger : Nat) :
    (entry.release trigger).tally = entry.tally := by
  unfold release
  split <;> rfl

def Event.handed? : Event → Option Report
  | .sink _ report => some report
  | _ => none

def Frame.report? : Frame → Option Report
  | .report told => some told
  | _ => none

theorem Frame.report_of_report? {frame : Frame} {report : Report}
    (told : frame.report? = some report) : frame = .report report := by
  cases frame <;> first | (cases told; rfl) | cases told

namespace Move

def reports (move : Move) : List Report :=
  move.frames.filterMap Frame.report?

def IsMute (move : Move) : Prop :=
  ∀ added ∈ move.frames, added.report? = none

theorem IsMute.resume (signal : Signal) : (Move.resume [] signal).IsMute :=
  fun _ member => absurd member List.not_mem_nil

theorem IsMute.give (value : Value) : (Move.give value).IsMute := .resume _

theorem IsMute.fail (failure : Failure) : (Move.fail failure).IsMute := .resume _

theorem IsTacit.isMute {move : Move} (tacit : move.IsTacit) : move.IsMute := by
  intro added member
  have unreported := tacit added member
  cases added <;> first | rfl | cases unreported

theorem IsMute.reports {move : Move} (mute : move.IsMute) : move.reports = [] :=
  List.filterMap_eq_nil_iff.mpr mute

theorem filterMap_report? (reports : List Report) :
    (reports.map Frame.report).filterMap Frame.report? = reports := by
  rw [List.filterMap_map]
  exact List.filterMap_some

theorem reports_go (reports : List Report) {others : List Frame}
    (mute : ∀ added ∈ others, added.report? = none) :
    (Move.go (reports.map .report ++ others)).reports = reports := by
  rw [Move.reports, go, frames, List.filterMap_append, filterMap_report?,
    List.filterMap_eq_nil_iff.mpr mute, List.append_nil]

end Move

namespace State

def handed (state : State) : List Report :=
  state.events.filterMap Event.handed?

structure Uncounted (state later : State) : Prop where
  tally : ∀ number, (later.entry number).tally = (state.entry number).tally
  size : state.entries.size ≤ later.entries.size
  handed : later.handed = state.handed

/-- `Records state later number reports`: the errors of some reports have been recorded on a task, and
nothing else has been counted. -/
structure Records (state later : State) (number : Nat) (reports : List Report) : Prop where
  tally : (later.entry number).tally = (state.entry number).tally.after reports
  others : ∀ other, other ≠ number → (later.entry other).tally = (state.entry other).tally
  size : state.entries.size ≤ later.entries.size
  handed : later.handed = state.handed

variable {state middle later : State} {agent : Agent} {number trigger : Nat}
  {reports : List Report}

namespace Uncounted

theorem refl (state : State) : Uncounted state state :=
  ⟨fun _ => rfl, Nat.le_refl _, rfl⟩

theorem trans (first : Uncounted state middle) (second : Uncounted middle later) :
    Uncounted state later :=
  ⟨fun number => (second.tally number).trans (first.tally number),
    Nat.le_trans first.size second.size, second.handed.trans first.handed⟩

theorem of_eq (entries : later.entries = state.entries) (events : later.events = state.events) :
    Uncounted state later where
  tally number := by rw [State.entry, entries]; rfl
  size := Nat.le_of_eq (by rw [entries])
  handed := by rw [State.handed, events]; rfl

theorem tell (state : State) (level : Level) (line : String) :
    Uncounted state (state.tell level line) :=
  .of_eq rfl rfl

theorem record (state : State) {event : Event} (other : event.handed? = none) :
    Uncounted state (state.record event) where
  tally _ := rfl
  size := Nat.le_refl _
  handed := List.filterMap_cons_none other

theorem updateEntry (state : State) (number : Nat) (change : Entry → Entry)
    (tally : ∀ entry, (change entry).tally = entry.tally) :
    Uncounted state (state.updateEntry number change) where
  tally other := by
    rw [entry_updateEntry]
    split
    · exact tally _
    · rfl
  size := Nat.le_of_eq (Store.size_update ..).symm
  handed := rfl

theorem records (uncounted : Uncounted state later) (number : Nat) :
    Records state later number [] :=
  ⟨uncounted.tally number, fun other _ => uncounted.tally other, uncounted.size,
    uncounted.handed⟩

end Uncounted

theorem Records.uncounted (records : Records state later number []) : Uncounted state later where
  tally other := by
    by_cases same : other = number
    · rw [same]
      exact records.tally
    · exact records.others other same
  size := records.size
  handed := records.handed

namespace Records

theorem trans {first second : List Report} (earlier : Records state middle number first)
    (after : Records middle later number second) : Records state later number (first ++ second) where
  tally := by rw [after.tally, earlier.tally, Tally.after_append]
  others other different := (after.others other different).trans (earlier.others other different)
  size := Nat.le_trans earlier.size after.size
  handed := after.handed.trans earlier.handed

theorem uncounted_trans (uncounted : Uncounted state middle)
    (records : Records middle later number reports) : Records state later number reports :=
  (uncounted.records number).trans records

theorem trans_uncounted (records : Records state middle number reports)
    (uncounted : Uncounted middle later) : Records state later number reports := by
  simpa using records.trans (uncounted.records number)

theorem updateEntry (within : number < state.entries.size) (report : Report)
    {change : Entry → Entry}
    (tally : ∀ entry, (change entry).tally = entry.tally.after [report]) :
    Records state (state.updateEntry number change) number [report] where
  tally := by
    rw [entry_updateEntry_self within]
    exact tally _
  others other different := by
    rw [entry_updateEntry, if_neg fun same => different same.1]
  size := Nat.le_of_eq (Store.size_update ..).symm
  handed := rfl

theorem countError (within : number < state.entries.size) (report : Report) :
    Records state (state.countError number report) number [report] :=
  .updateEntry within report fun _ => rfl

theorem breakOff (within : number < state.entries.size) (report : Report) :
    Records state (state.breakOff number report) number [report] :=
  .updateEntry within report fun _ => rfl

end Records

/-! ### What counts nothing -/

theorem commit_uncounted (state : State) (trigger : Nat) (outcome : Outcome)
    (callback : Option Work) : Uncounted state (state.commit trigger outcome callback).1 := by
  unfold commit
  dsimp only
  split <;> exact .of_eq rfl rfl

theorem startThread_uncounted (state : State) (trigger : Nat) :
    Uncounted state (state.startThread trigger).1 := by
  unfold startThread
  dsimp only
  split <;> exact .of_eq rfl rfl

theorem addTask_uncounted (state : State) (name : String) (rule : Rule) (work : Work) :
    Uncounted state (state.addTask name rule work).1 := by
  unfold addTask
  split
  · exact .tell _ _ _
  · refine ⟨fun number => ?tally, ?size, rfl⟩
    case tally =>
      show ((state.entries.add (.new name rule work)).get number).tally = _
      rw [Store.get_add]
      split
      -- Nothing has been counted of a new task, as of one that does not exist.
      · next new => rw [new, state.entry_of_le (Nat.le_refl _)]; rfl
      · rfl
    case size =>
      show state.entries.size ≤ (state.entries.add (.new name rule work)).size
      rw [Store.size_add]
      exact Nat.le_succ _

theorem removeTask_uncounted (state : State) (name : String) :
    Uncounted state (state.removeTask name).1 := by
  unfold removeTask
  split
  · exact .refl _
  · dsimp only
    split <;> exact .of_eq rfl rfl

theorem Harmless.uncounted (harmless : Harmless state later) : Uncounted state later := by
  cases harmless with
  | aside unmoved events => exact .of_eq unmoved.entries events
  | make | label => exact .of_eq rfl rfl
  | startThread => exact startThread_uncounted state _
  | addTask name rule => exact addTask_uncounted state name rule _
  | updateRule number rule =>
    exact (Uncounted.updateEntry state number (fun entry => { entry with rule })
      fun _ => rfl).trans (.tell _ _ _)
  | @updateWork number work =>
    exact (Uncounted.updateEntry state number (fun entry => { entry with work })
      fun _ => rfl).trans (.tell _ _ _)

theorem HarmlessRun.uncounted (changes : HarmlessRun state later) : Uncounted state later := by
  induction changes with
  | refl => exact .refl _
  | tail _ harmless ih => exact ih.trans harmless.uncounted

theorem stopChain_uncounted (state : State) (number : Nat) (callback : Work) :
    Uncounted state (state.stopChain number callback).1 := by
  unfold stopChain
  dsimp only
  split
  · next trigger _ _ =>
    refine .trans (.updateEntry state number (fun entry => entry.stop trigger callback)
      fun _ => rfl) (.trans ?_ (.tell _ _ _))
    exact commit_uncounted _ _ _ _
  · exact .refl _

theorem stopNamed_uncounted (callback : Work) (names : List String) :
    Uncounted state (state.stopNamed callback names).1 := by
  induction names generalizing state with
  | nil => exact .refl _
  | cons name rest ih =>
    unfold stopNamed
    split
    · exact ih
    · exact (stopChain_uncounted _ _ _).trans ih

theorem endChain_uncounted (state : State) (number trigger : Nat) :
    Uncounted state (state.endChain number trigger).1 :=
  .updateEntry state number _ fun _ => Entry.tally_release _ _

theorem plan_uncounted (state : State) (rule : Rule) (after : DateTime) :
    Uncounted state (state.plan rule after).1 := by
  unfold plan
  split
  · exact .refl _
  · exact .trans (.record state rfl) (.of_eq rfl rfl)

/-! ### Arming -/

def resultReports : Except Failure (Option Report) → List Report
  | .ok report => report.toList
  | .error _ => []

theorem armFor_records (within : number < state.entries.size) (args : List Value)
    (due : DateTime) :
    Records state (state.armFor number args due).1 number (state.armFor number args due).2.toList := by
  have fresh : Uncounted state (state.makeTrigger (some due) (.fire number state.triggers.size)
      args (.entry number) (state.entry number).name) := .of_eq rfl rfl
  have made := fresh.trans (startThread_uncounted _ state.triggers.size)
  unfold armFor
  dsimp only
  generalize (state.makeTrigger (some due) (.fire number state.triggers.size) args
    (.entry number) (state.entry number).name).startThread state.triggers.size = started at made ⊢
  obtain ⟨spawned, failure | _⟩ := started
  · exact .uncounted_trans made (.breakOff (Nat.lt_of_lt_of_le within made.size) _)
  · refine .trans_uncounted (made.records number) ?_
    exact .trans (.updateEntry spawned number (fun entry => entry.arm state.triggers.size due)
      fun _ => rfl) (.tell _ _ _)

theorem arm_records (within : number < state.entries.size) (args : List Value)
    (after : Option DateTime) :
    Records state (state.arm number args after).1 number
      (resultReports (state.arm number args after).2) := by
  unfold arm
  split
  · exact (Uncounted.refl state).records number
  · next now _ =>
    dsimp only
    cases planFrom now after with
    | error fault =>
      dsimp only
      split
      · exact (Uncounted.refl state).records number
      · exact .breakOff within _
    | ok time =>
      have planned := state.plan_uncounted (state.entry number).rule time
      dsimp only
      generalize state.plan (state.entry number).rule time = planning at planned
      obtain ⟨prior, run⟩ := planning
      have known := Nat.lt_of_lt_of_le within planned.size
      cases run with
      | error failure =>
        dsimp only
        split
        · exact planned.records number
        · exact .uncounted_trans planned (.breakOff known _)
      | ok found =>
        cases found with
        | none => exact .uncounted_trans planned (.breakOff known _)
        | some due => exact .uncounted_trans planned (armFor_records known args due)

end State

end Timetable
