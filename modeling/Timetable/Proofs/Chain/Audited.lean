import Timetable.Proofs.Chain.Mishap
import Timetable.Proofs.Chain.Told
import Timetable.Proofs.Machine.Unread

/-! The accounts of a session.

The counters of a task say how often its function was called and how many errors were recorded on it.
Every error that is recorded is told once, by the runner that recorded it, but for the failure of a run
whose end fails in its turn. Sinks may fail as they like: the session goes on as if they had returned.
-/

set_option autoImplicit false

namespace Timetable

namespace State

variable {state next : State} {agent : Agent} {frame : Frame} {rest : List Frame}
  {signal : Signal} {number : Nat}

/-! ### Runs -/

theorem Sound.of_firing? (sound : Sound state) (upright : state.Upright)
    (stepped : state.step = some next) {trigger : Nat}
    (firing : next.firing? number = some trigger) : ∃ agent rest value task args,
      state.active = some ⟨agent, .call (.fire task trigger) args :: rest, .ok value⟩ := by
  obtain ⟨agent, work, args, given, mode, called, rest, value, active⟩ := State.of_firing? firing
  obtain ⟨frame, base, below, before, running, calling, same⟩ :=
    upright.calling sound stepped active
  obtain ⟨rfl, rfl⟩ := List.cons.inj same
  cases calling
  exact ⟨_, _, _, _, _, running⟩

theorem firing?_of_error {stack : List Frame} {failure : Failure}
    (active : state.active = some ⟨agent, stack, .error failure⟩) : state.firing? number = none := by
  unfold firing?
  rw [active]
  split
  · next same => cases same
  · rfl

theorem Sound.firing?_of_fires (sound : Sound state) (upright : state.Upright)
    (stepped : state.step = some next)
    (active : state.active = some ⟨agent, frame :: rest, signal⟩) (number : Nat) :
    (next.firing? number).toList.length = state.fires number signal frame := by
  by_cases calls : ∃ value task trigger args,
      signal = .ok value ∧ frame = .call (.fire task trigger) args
  · obtain ⟨value, task, trigger, args, rfl, rfl⟩ := calls
    have answers : next = (state.fire task trigger args).1.make agent rest
        (state.fire task trigger args).2 := eq_of_active active stepped
    rw [answers, fires]
    unfold fire
    cases state.now with
    | error fault => exact congrArg _ (congrArg _ (firing?_of_error rfl))
    | ok now =>
      show (if task = number then some trigger else none).toList.length = _
      dsimp only
      split <;> rfl
  · have still : state.fires number signal frame = 0 := by
      unfold fires
      split
      · exact absurd ⟨_, _, _, _, rfl, rfl⟩ calls
      · rfl
    have none : next.firing? number = none := by
      refine Option.eq_none_iff_forall_ne_some.mpr fun trigger firing => calls ?_
      obtain ⟨_, _, value, task, args, running⟩ := sound.of_firing? upright stepped firing
      cases running.symm.trans active
      exact ⟨_, _, _, _, rfl, rfl⟩
    rw [still, none]
    rfl

theorem Sound.runs_step (sound : Sound state) (upright : state.Upright) {books : Books}
    (booked : Booked state books) (stepped : state.step = some next) (number : Nat) :
    (next.entry number).runs =
      (state.entry number).runs + (next.firing? number).toList.length := by
  -- Where no frame answers, nothing puts a call on a stack.
  have calm : state.IsCalm → next.firing? number = none := by
    refine fun calm => Option.eq_none_iff_forall_ne_some.mpr fun trigger firing => ?_
    obtain ⟨_, _, _, _, _, running⟩ := sound.of_firing? upright stepped firing
    exact calm _ _ _ _ running
  cases step_advance sound.awake stepped with
  | passes agent idle turns => rw [turns.toShift.entry, calm (.of_idle idle)]; rfl
  | ends agent signal active turns => rw [turns.toShift.entry, calm (.of_empty active)]; rfl
  | answers agent frame rest signal active same =>
    have entered := (booked.answered sound active).entered active
    have counted := congrArg Tally.runs (entered.tally number)
    rw [(sound.replied_step active stepped).turns.toShift.entry,
      sound.firing?_of_fires upright stepped active]
    exact counted

/-! ### Sinks that fail -/

def OwesNoReport (state : State) : Prop :=
  ∀ agent, ∀ frame ∈ state.stackOf agent, frame.report? = none

/-- `Counts past state`: what the counters of tasks say of a session, and what is recorded in it. -/
structure Counts (past : List State) (state : State) : Prop where
  /-- Every call of the function of a task is a run. -/
  runs : ∀ number, (state.entry number).runs = (firings number (state :: past)).length
  /-- Every error that is recorded is counted once. -/
  errors : ∀ number,
    (state.entry number).errors = (Note.reportsOn number (Books.of past).recorded).length
  lastError : ∀ number, (state.entry number).lastError =
    (Note.reportsOn number (Books.of past).recorded).getLast?.map Report.message
  recorded : (Books.of past).recorded =
    past.reverse.flatMap fun visited => visited.reported ++ visited.unreported
  /-- A failure of a function, of a callback or of a trigger is recorded. -/
  failed : ∀ visited ∈ past, ∀ agent frame rest failure number,
    visited.active = some ⟨agent, frame :: rest, .error failure⟩ →
    frame.looksAt failure = true → visited.blamed? frame = some number →
    visited.Notes number failure
  /-- So is a time that cannot be waited for. -/
  untimely : ∀ visited ∈ past, ∀ agent frame rest value trigger fault number,
    visited.active = some ⟨agent, frame :: rest, .ok value⟩ → frame.CountsDown trigger →
    visited.outcome trigger = none →
    untilDue visited.clock (visited.trigger trigger).due visited.setting.home = .error fault →
    visited.owner trigger = some number → visited.Notes number fault.failure
  /-- A task that runs or is started does not come to rest without an error, unless it is stopped. -/
  rests : ∀ visited ∈ past, ∀ next, visited.step = some next → ∀ number,
    (visited.entry number).isRunning = true ∨ .started number ∈ visited.deeds →
    (∀ trigger callback, .stopped number trigger callback ∉ visited.deeds) →
    (next.entry number).isRunning = true ∨
      (visited.entry number).errors < (next.entry number).errors

structure Tells (setting : Setting) (past : List State) (state : State) : Prop where
  balanced : (Books.of past).Balanced
  /-- What is owed will be told by the runner that recorded it. -/
  owed : ∀ agent, Note.reportsBy agent (Books.of past).owed =
    (state.stackOf agent).filterMap Frame.report?
  /-- Sinks are called with what is told, and by triggers that no task has made. -/
  handed : state.handed.Perm (toldToSink setting (.of past) ++ complaints past)
  lost : (∀ visited ∈ past, ¬ visited.QuitsSink) →
    (Books.of past).lost = past.reverse.flatMap State.unreported
  unreported : ∀ visited ∈ past, visited.unreported ≠ [] → visited.FailsTwice
  whole : (∀ visited ∈ past, ¬ visited.QuitsSink ∧ ¬ visited.FailsTwice) →
    (Books.of past).lost = []
  /-- Where nothing is owed and nothing was lost, the errors of a task are those that were told. -/
  even : state.OwesNoReport → (Books.of past).lost = [] → ∀ number,
    (state.entry number).errors = (Note.reportsOn number (Books.of past).told).length

theorem Booked.owed_eq_nil {books : Books} (booked : Booked state books)
    (owes : state.OwesNoReport) : books.owed = [] := by
  refine List.eq_nil_iff_forall_not_mem.mpr fun note member => ?_
  have none : Note.reportsBy note.agent books.owed = [] := by
    rw [booked.owed, List.filterMap_eq_nil_iff]
    exact owes note.agent
  have mine : note.report ∈ Note.reportsBy note.agent books.owed :=
    List.mem_map_of_mem (List.mem_filter.mpr ⟨member, by simp⟩)
  rw [none] at mine
  cases mine

end State

theorem Books.recorded_of (past : List State) : (Books.of past).recorded =
    past.reverse.flatMap fun visited => visited.reported ++ visited.unreported := by
  induction past with
  | nil => rfl
  | cons state past ih =>
    show ((Books.of past).post state).recorded = _
    rw [Books.post_recorded, ih]
    simp

namespace Trace

variable {setting : Setting} {first state : State} {past : List State}

theorem runs_eq (trace : Trace (.initial setting) past state) (number : Nat) :
    (state.entry number).runs = (State.firings number (state :: past)).length := by
  rw [State.firings_cons, List.length_append]
  induction trace with
  | refl => rfl
  | @issue past state operation earlier finished ih =>
    have none : state.firing? number = none := by
      rw [State.firing?, State.mainHasFinished_idle finished]
    rw [none] at ih
    rw [State.firings_cons, none, Option.toList_none, List.append_nil]
    exact ih
  | step earlier stepped ih =>
    rw [(earlier.sound (.initial setting)).runs_step earlier.upright earlier.booked stepped, ih,
      State.firings_cons, List.length_append]

theorem counts (trace : Trace (.initial setting) past state) : state.Counts past where
  runs := trace.runs_eq
  errors := trace.booked.errors
  lastError := trace.booked.lastError
  recorded := Books.recorded_of past
  failed _ _ _ _ _ _ _ := State.notes_of_looksAt
  untimely _ _ _ _ _ _ _ _ _ := State.notes_of_countsDown
  rests visited member _ stepped _ :=
    (trace.sound_of_initial visited (List.mem_cons_of_mem _ member)).runs_on stepped

theorem tells (trace : Trace (.initial setting) past state) : state.Tells setting past where
  balanced := trace.booked.balanced
  owed := trace.booked.owed
  handed := trace.handed
  lost := trace.lost_eq
  unreported visited _ := visited.unreported_cause
  whole fair := by
    rw [trace.lost_eq fun visited member => (fair visited member).1, List.flatMap_eq_nil_iff]
    intro visited member
    by_contra unreported
    exact (fair visited (List.mem_reverse.mp member)).2 (visited.unreported_cause unreported)
  even owes none number := by
    have balanced := trace.booked.balanced
    rw [Books.Balanced, trace.booked.owed_eq_nil owes, none, List.append_nil,
      List.append_nil] at balanced
    rw [trace.booked.errors]
    exact ((balanced.filter _).map _).length_eq

/-- A task fails in a run that ends where clocks, which are an hour ahead, show no time: two errors are
counted, and the sink is told of one. -/
theorem blind_end_unreported : ∃ past state,
    Trace (.initial { Setting.ofRules ((calendarMicros : Int) - 3604000000) (.fixed 3600) with
      plans := some [.delay 3000000]
      sink := some ⟨0, []⟩ }) past state ∧
    (state.entry 0).errors = 2 ∧ state.handed.length = 1 ∧ state.isQuiet = true ∧
    (state.trigger 0).thread = .ended ∧ state.triggers.size = 1 := by
  have begun : Trace (.initial { Setting.ofRules ((calendarMicros : Int) - 3604000000)
      (.fixed 3600) with
      plans := some [.delay 3000000]
      sink := some ⟨0, []⟩ }) [] _ := .refl
  obtain ⟨_, added⟩ := begun.perform rfl ⟨.add "job" (.text "* * * * *")
    (.script "work" [.sleep 2000000, .raise ⟨"ValueError", "boom"⟩]), true⟩
  obtain ⟨_, started⟩ := added.perform rfl ⟨.start "job" .chain [], true⟩
  obtain ⟨_, late⟩ := started.perform rfl ⟨.advance 6000000, true⟩
  exact ⟨_, _, late, rfl, rfl, rfl, rfl, rfl⟩

end Trace

end Timetable
