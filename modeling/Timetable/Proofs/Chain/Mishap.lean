import Timetable.Proofs.Chain.Books
import Timetable.Proofs.Chain.Planned

/-! Nothing goes wrong unnoticed.

A failure of the function of a task, of the callback of a stop or of a trigger of a task is recorded in
the step in which it comes up; and a task that runs, or is started, comes to rest only by a stop or with
an error. A recorded error goes unreported only where the end of a failed run fails in its turn, and that
is where clocks show no time or the planner asks to leave.
-/

set_option autoImplicit false

namespace Timetable

namespace State

variable {state later next : State} {agent : Agent} {frame : Frame} {rest : List Frame}
  {signal : Signal} {number trigger : Nat}

/-! ### Failures are recorded -/

def Notes (state : State) (number : Nat) (failure : Failure) : Prop :=
  ∃ note ∈ state.reported ++ state.unreported,
    note.task = number ∧ note.report.cause = some failure

theorem notes_of_report {failure : Failure}
    (active : state.active = some ⟨agent, frame :: rest, signal⟩)
    (blamed : state.blamed? frame = some number)
    (told : ∃ report, .report report ∈ (state.answer agent signal frame).2.frames ∧
      report.cause = some failure) : state.Notes number failure := by
  obtain ⟨report, told, cause⟩ := told
  refine ⟨⟨agent, number, report⟩, List.mem_append_left _ ?_, rfl, cause⟩
  rw [reported, active]
  dsimp only
  rw [blamed]
  exact List.mem_map_of_mem (List.mem_filterMap.mpr ⟨_, told, rfl⟩)

theorem complain_told (owned : state.owner trigger = some number) (target : Work)
    (stage : String) (failure : Failure) :
    .report (triggerReport (state.trigger trigger) target stage failure) ∈
      (state.complain trigger target stage failure).2.frames := by
  unfold owner at owned
  split at owned
  · next errors =>
    simp only [complain, errors]
    exact List.mem_append_left _ List.mem_cons_self
  · cases owned
  · cases owned

theorem goOn_failed (state : State) (number trigger : Nat) (next : List Value)
    (due : Option DateTime) (report : Report) :
    (∃ others, (state.goOn number trigger next due (some report)).2 =
        .go (.report report :: others)) ∨
      ∃ failure, (state.goOn number trigger next due (some report)).2 = .fail failure := by
  unfold goOn
  split
  · generalize state.arm number next due = armed
    obtain ⟨after, failure | unarmed⟩ := armed
    · exact .inr ⟨failure, rfl⟩
    · exact .inl ⟨_, rfl⟩
  · exact .inl ⟨_, rfl⟩

theorem fired_notes {args : List Value} {mode : Mode} {work : Work} {failure : Failure}
    (active : state.active = some ⟨agent, .fired number trigger args mode work :: rest,
      .error failure⟩) (mild : failure.leaves = false) : state.Notes number failure := by
  let report := runReport (state.entry number).name (state.trigger trigger).due work args failure
  have stays : ¬ failure.leaves = true := Bool.eq_false_iff.mp mild
  have answer : state.answer agent (.error failure) (.fired number trigger args mode work) =
      state.endRun number trigger args mode work (.error failure) := by
    simp only [State.answer, handle, if_neg stays]
  have ended : (∃ others, (state.endRun number trigger args mode work (.error failure)).2 =
      .go (.report report :: others)) ∨
      ∃ other, (state.endRun number trigger args mode work (.error failure)).2 = .fail other :=
    (state.countError number report).goOn_failed number trigger _ _ report
  rcases ended with ⟨others, told⟩ | ⟨other, fails⟩
  · refine notes_of_report active rfl ⟨report, ?_, rfl⟩
    rw [answer, told]
    exact List.mem_cons_self
  · -- The report goes with the rest of the run; what is recorded stays.
    have dropped : state.dropped (.error failure) (.fired number trigger args mode work) =
        [report] := by
      rw [State.dropped, if_neg stays, fails]
      rfl
    refine ⟨⟨agent, number, report⟩, List.mem_append_right _ ?_, rfl, rfl⟩
    rw [unreported, active]
    dsimp only [blamed?]
    rw [dropped]
    exact List.mem_singleton_self _

theorem notes_of_looksAt {failure : Failure}
    (active : state.active = some ⟨agent, frame :: rest, .error failure⟩)
    (looks : frame.looksAt failure = true) (blamed : state.blamed? frame = some number) :
    state.Notes number failure := by
  cases frame with
  | fired task trigger args mode work =>
    cases blamed
    exact fired_notes active (by simpa [Frame.looksAt] using looks)
  | calledBack task work args =>
    have stays : ¬ failure.leaves = true := by simpa [Frame.looksAt] using looks
    refine notes_of_report active blamed ?_
    simp only [State.answer, handle, if_neg stays]
    exact ⟨_, List.mem_cons_self, rfl⟩
  | dispatched trigger target =>
    have stays : ¬ failure.leaves = true := by simpa [Frame.looksAt] using looks
    refine notes_of_report active blamed ?_
    simp only [State.answer, handle, if_neg stays]
    exact ⟨_, complain_told blamed target "running" failure, rfl⟩
  | _ => cases looks

/-- That the time of a trigger of a task cannot be waited for is recorded. -/
theorem notes_of_countsDown {value : Value} {fault : Fault}
    (active : state.active = some ⟨agent, frame :: rest, .ok value⟩)
    (counts : frame.CountsDown trigger) (undecided : state.outcome trigger = none)
    (due : untilDue state.clock (state.trigger trigger).due state.setting.home = .error fault)
    (owned : state.owner trigger = some number) : state.Notes number fault.failure := by
  have answer : state.answer agent (.ok value) frame = state.countdown trigger := by
    have waits : ¬ (state.trigger trigger).decision.isCommitted = true :=
      fun committed => (isCommitted_iff state trigger).mp committed undecided
    cases counts with
    | countdown => rfl
    | waited => simp only [State.answer, State.resume, if_neg waits]
  -- The trigger is called off before it complains, and keeps its task.
  have owner : (state.commit trigger .cancel none).1.owner trigger = some number :=
    (state.owner_commit trigger .cancel none trigger).trans owned
  refine notes_of_report active ((CountsDown.blamed?_eq counts).trans owned) ?_
  rw [answer]
  simp only [countdown, due]
  rw [commit_undecided undecided] at owner ⊢
  exact ⟨_, complain_told owner _ "waiting for" fault.failure, rfl⟩

/-! ### Tasks come to rest by a stop or with an error -/

def RunsOn (number : Nat) (state later : State) : Prop :=
  (state.entry number).isRunning = true → (later.entry number).isRunning = true ∨
    (state.entry number).errors < (later.entry number).errors

namespace RunsOn

variable {middle : State}

theorem of_entry (same : later.entry number = state.entry number) : RunsOn number state later :=
  fun running => .inl (same ▸ running)

theorem of_neutral (neutral : Neutral state later) : RunsOn number state later :=
  fun running => .inl ((neutral.isRunning number).trans running)

theorem updateEntry {task : Nat} {change : Entry → Entry}
    (own : (change (state.entry number)).isRunning = (state.entry number).isRunning ∨
      (state.entry number).errors < (change (state.entry number)).errors) :
    RunsOn number state (state.updateEntry task change) := by
  intro running
  rw [entry_updateEntry]
  split
  · exact own.imp_left fun same => same.trans running
  · exact .inl running

theorem breakOff (state : State) (number task : Nat) (report : Report) :
    RunsOn number state (state.breakOff task report) :=
  updateEntry (.inr (Nat.lt_succ_self _))

theorem endChain (state : State) (number task trigger : Nat) :
    RunsOn number state (state.endChain task trigger).1 := by
  refine updateEntry (.inl ?_)
  unfold Entry.release
  split <;> rfl

theorem after (runs : (state.entry number).isRunning = true → (middle.entry number).isRunning = true)
    (errors : (state.entry number).errors ≤ (middle.entry number).errors)
    (on : RunsOn number middle later) : RunsOn number state later :=
  fun running => (on (runs running)).imp_right (Nat.lt_of_le_of_lt errors)

theorem abandonChain (state : State) (number task trigger : Nat) (report : Report) :
    RunsOn number state (state.abandonChain task trigger report).1 := by
  have dropped : ∀ middle : State, RunsOn number state middle →
      RunsOn number state (middle.updateEntry task fun entry => entry.dropStop trigger) := by
    intro middle on running
    rw [entry_updateEntry]
    split <;> exact on running
  unfold State.abandonChain
  refine dropped _ ?_
  split
  · exact breakOff _ _ _ _
  · exact of_neutral (.countError _ _ _)

theorem complain (state : State) (number trigger : Nat) (target : Work) (stage : String)
    (failure : Failure) :
    RunsOn number state (state.complain trigger target stage failure).1 := by
  rcases state.complain_state trigger target stage failure with unmoved | ⟨task, report, same⟩
  · exact of_neutral unmoved.neutral
  · rw [same]
    exact abandonChain _ _ _ _ _

theorem arming {args : List Value} {result : Except Failure (Option Report)}
    (arming : Arming state number args later result) : RunsOn number state later := by
  cases arming with
  | blind => exact of_entry rfl
  | left unmoved => exact of_entry (unmoved.entry number)
  | @unplanned planned report unmoved =>
    have same := unmoved.entry number
    exact after (fun running => same ▸ running) (Nat.le_of_eq (by rw [same])) (breakOff _ _ _ _)
  | @unstarted planned spawned due report unmoved made =>
    have same := (made.entry number).trans (unmoved.entry number)
    exact after (fun running => same ▸ running) (Nat.le_of_eq (by rw [same])) (breakOff _ _ _ _)
  | @armed planned spawned later due unmoved made armed =>
    have same := (made.entry number).trans (unmoved.entry number)
    refine fun running => .inl ?_
    rw [armed.entry, entry_updateEntry, same]
    split <;> exact running

theorem effect {deeds : List Deed} (effect : Effect state deeds later) : Linked state →
    (∀ trigger callback, .stopped number trigger callback ∉ deeds) →
    (state.entry number).isRunning = true → (later.entry number).isRunning = true := by
  induction effect with
  | neutral neutral => exact fun _ _ running => (neutral.isRunning number).trans running
  | @start state task mode args member idle =>
    intro _ _ running
    -- Only an idle task is started.
    have other : number ≠ task := by
      rintro rfl
      rw [idle] at running
      cases running
    rw [(startChain_local mode args member idle).others number other]
    exact running
  | @stop state task trigger callback runs held called =>
    intro linked unstopped running
    have owned := ((linked.tasks task).held trigger held).1
    have other : number ≠ task := by
      rintro rfl
      exact unstopped _ _ List.mem_cons_self
    rw [(stopChain_local runs held owned callback).others number other]
    exact running
  | trans earlier _ first second =>
    intro linked unstopped running
    refine second (linked.effect earlier)
      (fun trigger callback member => unstopped _ _ (List.mem_append_right _ member)) ?_
    exact first linked
      (fun trigger callback member => unstopped _ _ (List.mem_append_left _ member)) running

theorem ending {task : Nat} {args : List Value} {mode : Mode} {outcome : Signal} {move : Move}
    (ending : Ending state task trigger args mode outcome later move) :
    RunsOn number state later := by
  -- The failure of the run is counted first, which leaves the task running.
  have noted : ∀ middle : State, Noted task state middle → RunsOn number middle later →
      RunsOn number state later := by
    intro middle noted on
    refine after (fun running => (noted.neutral.isRunning number).trans running) ?_ on
    rcases noted with rfl | ⟨report, rfl⟩
    · exact Nat.le_refl _
    · show _ ≤ ((state.updateEntry task _).entry number).errors
      rw [entry_updateEntry]
      split
      · exact Nat.le_succ _
      · exact Nat.le_refl _
  by_cases same : number = task
  · subst same
    cases ending with
    | goesOn counted _ _ armed => exact noted _ counted (arming armed)
    | finished _ counted => exact noted _ counted (endChain _ _ _ _)
  · exact of_entry (ending.local.others number same)

/-- A task that runs goes on running, unless it is stopped or an error of it is counted. -/
theorem reply (linked : Linked state) {move : Move}
    (unstopped : ∀ trigger callback,
      .stopped number trigger callback ∉ state.frameDeeds agent signal frame)
    (reply : Reply state agent signal frame later move) : RunsOn number state later := by
  have same : ∀ {later : State}, later.entries = state.entries → RunsOn number state later :=
    fun entries => of_entry (by rw [State.entry, entries]; rfl)
  cases reply with
  | plain _ _ unmoved => exact of_neutral unmoved.neutral
  | request _ effect => exact fun running => .inl (RunsOn.effect effect linked unstopped running)
  | passed => exact same rfl
  | dispatched => exact same rfl
  | calledBack => exact same rfl
  | waits _ _ _ _ unmoved => exact of_neutral unmoved.neutral
  | proceeds => exact same (entries_commit _ _ _ _)
  | obeys _ _ unmoved => exact of_neutral unmoved.neutral
  | cancelled _ _ _ unmoved => exact of_neutral unmoved.neutral
  | @breaks _ _ trigger =>
    have entry : (state.commit trigger .cancel none).1.entry number = state.entry number := by
      rw [State.entry, entries_commit]
      rfl
    exact after (fun running => entry ▸ running) (Nat.le_of_eq (by rw [entry]))
      (complain _ _ _ _ _ _)
  | complains => exact complain _ _ _ _ _ _
  | @fires _ task _ _ time _ _ unmoved =>
    exact of_neutral ((Neutral.noteRun _ _ _).trans unmoved.neutral)
  | misfires => exact same rfl
  | settles => exact endChain _ _ _ _
  | ran => exact ending (endRun_ending _ _ _ _ _ _ _)
  | callsBack _ _ _ unmoved => exact of_neutral unmoved.neutral
  | regrets => exact of_neutral (.countError _ _ _)

end RunsOn

/-- A task that runs or is started runs after the step, unless it is stopped or an error is counted. -/
theorem Sound.runs_on (sound : Sound state) (stepped : state.step = some next)
    (ran : (state.entry number).isRunning = true ∨ .started number ∈ state.deeds)
    (unstopped : ∀ trigger callback, .stopped number trigger callback ∉ state.deeds) :
    (next.entry number).isRunning = true ∨
      (state.entry number).errors < (next.entry number).errors := by
  rcases ran with running | started
  · cases step_advance sound.awake stepped with
    | passes agent idle turns => exact .inl (turns.toShift.entry number ▸ running)
    | ends agent signal active turns => exact .inl (turns.toShift.entry number ▸ running)
    | answers agent frame rest signal active same =>
      have replied := sound.replied_step active stepped
      rw [deeds, active] at unstopped
      rw [replied.turns.toShift.entry]
      exact RunsOn.reply sound.linked unstopped replied.reply running
  · obtain ⟨within, idle, mode, args, entry⟩ := sound.starts_step stepped started
    obtain ⟨later, result, begins, becomes⟩ := startChain_becomes within idle mode args
    rw [entry, begins, begun_fst]
    generalize later.entry number = after at becomes ⊢
    cases becomes with
    | raised failure => exact .inl rfl
    | brokenOff report => exact .inr (Nat.lt_succ_self _)
    | armed due => exact .inl rfl

/-! ### What goes unreported -/

/-- The end of a run fails where clocks show no time, or where the planner asks to leave. -/
theorem Ending.cause {task : Nat} {args : List Value} {mode : Mode} {outcome : Signal}
    {move : Move} {failure : Failure}
    (ending : Ending state task trigger args mode outcome later move)
    (failed : move.signal = .error failure) :
    (∃ fault, state.now = .error fault) ∨ ∃ plans, state.setting.plans = some plans ∧
      .raise failure ∈ plans ∧ failure.leaves = true := by
  cases ending with
  | @goesOn noted _ result _ counted _ _ arming fails done =>
    have now : noted.now = state.now := by
      rcases counted with rfl | ⟨report, rfl⟩ <;> rfl
    cases arming with
    | blind fault blind => exact .inl ⟨fault, now ▸ blind⟩
    | left _ leaves planned =>
      obtain ⟨plans, scripted, member⟩ := planned
      rw [fails _ rfl] at failed
      cases failed
      rw [counted.neutral.setting] at scripted
      exact .inr ⟨plans, scripted, member, leaves⟩
    | unplanned | unstarted | armed =>
      obtain ⟨reports, told⟩ := done _ rfl
      rw [told] at failed
      cases failed
  | finished => cases failed

/-- A run has failed, and nothing more can be planned: clocks show no time, or the planner asks to
leave. -/
def FailsTwice (state : State) : Prop :=
  (∃ agent number trigger args mode work rest failure, failure.leaves = false ∧
    state.active = some ⟨agent, .fired number trigger args mode work :: rest, .error failure⟩) ∧
  ((∃ fault, state.now = .error fault) ∨ ∃ plans other, state.setting.plans = some plans ∧
    .raise other ∈ plans ∧ other.leaves = true)

theorem dropped_cause {failure : Failure} {args : List Value} {mode : Mode} {work : Work}
    (active : state.active =
      some ⟨agent, .fired number trigger args mode work :: rest, .error failure⟩)
    (dropped : state.dropped (.error failure) (.fired number trigger args mode work) ≠ []) :
    state.FailsTwice := by
  rw [State.dropped] at dropped
  split at dropped
  · exact absurd rfl dropped
  · next stays =>
    refine ⟨⟨_, _, _, _, _, _, _, _, by simpa using stays, active⟩, ?_⟩
    split at dropped
    · next frames other ended =>
      have ending := state.endRun_ending number trigger args mode work (.error failure)
      rcases ending.cause (by rw [ended]; rfl) with blind | ⟨plans, scripted, member, leaves⟩
      · exact .inl blind
      · exact .inr ⟨plans, other, scripted, member, leaves⟩
    · exact absurd rfl dropped

theorem unreported_cause (unreported : state.unreported ≠ []) : state.FailsTwice := by
  unfold State.unreported at unreported
  split at unreported
  · next agent frame rest signal active =>
    have dropped : state.dropped signal frame ≠ [] := by
      intro none
      rw [none] at unreported
      split at unreported <;> exact unreported rfl
    cases signal with
    | ok value => cases frame <;> exact absurd rfl dropped
    | error failure =>
      cases frame with
      | fired => exact dropped_cause active dropped
      | _ => exact absurd rfl dropped
  · exact absurd rfl unreported

end State

end Timetable
