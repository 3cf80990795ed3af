import Timetable.Proofs.Chain.Planned

/-! Tasks and their triggers are consistent.

In every state of a session, at most one trigger of a task is undecided, and it is the one that the
task holds; and a trigger that its task no longer holds does no harm to any chain. That tasks run just
when they have a run ahead holds unless a start meets a clock that shows no time.
-/

set_option autoImplicit false

namespace Timetable

/-- What a trigger may change of a task that has let go of it: counts of runs and of errors, and the
stop that was issued against it. -/
structure Entry.Spared (trigger : Nat) (before after : Entry) : Prop where
  name : after.name = before.name
  rule : after.rule = before.rule
  work : after.work = before.work
  mode : after.mode = before.mode
  status : after.status = before.status
  held : after.trigger = before.trigger
  nextRun : after.nextRun = before.nextRun
  stops : ∀ other, other ≠ trigger → after.stopCallback? other = before.stopCallback? other

namespace Entry.Spared

variable {trigger : Nat} {before middle after : Entry}

theorem refl (trigger : Nat) (entry : Entry) : Entry.Spared trigger entry entry :=
  ⟨rfl, rfl, rfl, rfl, rfl, rfl, rfl, fun _ _ => rfl⟩

theorem trans (first : Entry.Spared trigger before middle)
    (second : Entry.Spared trigger middle after) : Entry.Spared trigger before after :=
  ⟨second.name.trans first.name, second.rule.trans first.rule, second.work.trans first.work,
    second.mode.trans first.mode, second.status.trans first.status,
    second.held.trans first.held, second.nextRun.trans first.nextRun,
    fun other different => (second.stops other different).trans (first.stops other different)⟩

theorem dropStop (trigger : Nat) (entry : Entry) :
    Entry.Spared trigger entry (entry.dropStop trigger) :=
  ⟨rfl, rfl, rfl, rfl, rfl, rfl, rfl, fun other different =>
    (lookup_dropStop entry trigger other).trans (if_neg different)⟩

end Entry.Spared

namespace State

/-- The next step is one that the program asks for: an operation, or a start that a restart has put
off. -/
def isRequest (state : State) : Bool :=
  match state.active with
  | some ⟨_, frame :: _, .ok _⟩ => frame.isRequest
  | _ => false

structure Spared (trigger : Nat) (state later : State) : Prop where
  entries : ∀ number, Entry.Spared trigger (state.entry number) (later.entry number)
  triggers : later.triggers.size = state.triggers.size
  outcomes : ∀ other, other ≠ trigger → later.outcome other = state.outcome other

variable {number trigger : Nat} {state middle later : State} {agent : Agent}

namespace Spared

theorem refl (trigger : Nat) (state : State) : Spared trigger state state :=
  ⟨fun _ => .refl _ _, rfl, fun _ _ => rfl⟩

theorem trans (first : Spared trigger state middle) (second : Spared trigger middle later) :
    Spared trigger state later :=
  ⟨fun number => (first.entries number).trans (second.entries number),
    second.triggers.trans first.triggers,
    fun other different => (second.outcomes other different).trans (first.outcomes other different)⟩

theorem of_unmoved (unmoved : Unmoved state later) : Spared trigger state later :=
  ⟨fun number => by rw [unmoved.entry]; exact .refl _ _, by rw [unmoved.triggers],
    fun other _ => unmoved.outcome other⟩

theorem of_shift (shift : Shift state later) : Spared trigger state later :=
  ⟨fun number => by rw [shift.entry]; exact .refl _ _, shift.triggers,
    fun other _ => shift.outcome other⟩

theorem updateEntry {change : Entry → Entry}
    (spared : Entry.Spared trigger (state.entry number) (change (state.entry number))) :
    Spared trigger state (state.updateEntry number change) := by
  refine ⟨fun other => ?_, rfl, fun _ _ => rfl⟩
  rw [entry_updateEntry]
  split
  · next same => rw [same.1]; exact spared
  · exact .refl _ _

theorem countError (state : State) (number trigger : Nat) (report : Report) :
    Spared trigger state (state.countError number report) :=
  updateEntry ⟨rfl, rfl, rfl, rfl, rfl, rfl, rfl, fun _ _ => rfl⟩

theorem commit (state : State) (trigger : Nat) (decided : Outcome) (callback : Option Work) :
    Spared trigger state (state.commit trigger decided callback).1 := by
  refine ⟨fun number => ?_, ?_, fun other different => ?_⟩
  · rw [entry_commit]; exact .refl _ _
  · by_cases undecided : state.outcome trigger = none
    · rw [commit_undecided undecided]; exact Store.size_update ..
    · rw [commit_decided undecided]
  · by_cases undecided : state.outcome trigger = none
    · rw [outcome, trigger_commit undecided, if_neg fun both => different both.1]; rfl
    · rw [commit_decided undecided]

theorem noted (noted : Noted number state later) : Spared trigger state later := by
  rcases noted with rfl | ⟨report, rfl⟩
  · exact .refl _ _
  · exact countError _ _ _ _

theorem endChain (released : (state.entry number).trigger ≠ some trigger) :
    Spared trigger state (state.endChain number trigger).1 := by
  apply updateEntry
  unfold Entry.release
  rw [if_neg released]
  exact .dropStop _ _

theorem abandonChain (released : (state.entry number).trigger ≠ some trigger)
    (report : Report) : Spared trigger state (state.abandonChain number trigger report).1 := by
  unfold State.abandonChain
  dsimp only
  rw [if_neg released]
  exact (countError _ _ _ _).trans (updateEntry (.dropStop _ _))

theorem complain (owned : state.owner trigger = some number)
    (released : (state.entry number).trigger ≠ some trigger) (target : Work) (stage : String)
    (failure : Failure) :
    Spared trigger state (state.complain trigger target stage failure).1 := by
  obtain ⟨report, text, -, eq⟩ := complain_owned owned target stage failure
  rw [eq]
  exact abandonChain released report

theorem ending {args : List Value} {mode : Mode} {outcome : Signal} {move : Move}
    (released : (state.entry number).trigger ≠ some trigger)
    (ending : Ending state number trigger args mode outcome later move) :
    Spared trigger state later := by
  cases ending with
  | goesOn _ _ held => exact absurd held released
  | finished reports noted finished =>
    refine (Spared.noted noted).trans (endChain fun held => released ?_)
    rw [noted.neutral.held] at held
    exact held

theorem reply (owned : state.owner trigger = some number)
    (released : (state.entry number).trigger ≠ some trigger) {signal : Signal} {frame : Frame}
    {move : Move} (fits : Fits state (.thread trigger) frame)
    (own : ∀ value, signal = .ok value → frame.isRequest = false)
    (reply : Reply state (.thread trigger) signal frame later move) :
    Spared trigger state later := by
  have mine : ∀ {other}, frame.CountsDown other → trigger = other := by
    rintro other (_ | _) <;> exact Agent.thread.inj fits
  cases reply with
  | plain _ _ unmoved => exact of_unmoved unmoved
  | request asked => rw [own _ rfl] at asked; cases asked
  | passed => exact .refl _ _
  | dispatched => exact .refl _ _
  | calledBack => exact .refl _ _
  | waits _ _ _ _ unmoved => exact of_unmoved unmoved
  | proceeds counts => rw [← mine counts]; exact commit _ _ _ _
  | obeys _ _ unmoved => exact of_unmoved unmoved
  | cancelled _ _ _ unmoved => exact of_unmoved unmoved
  | breaks fault counts =>
    rw [← mine counts]
    refine (commit _ _ _ _).trans (complain (?_ : _ = some number) ?_ _ _ _)
    · rw [owner_commit]; exact owned
    · rw [entry_commit]; exact released
  | complains other target =>
    rw [← Agent.thread.inj fits.1]
    exact complain owned released _ _ _
  | fires now unmoved =>
    refine Spared.trans (updateEntry ?_) (of_unmoved unmoved)
    exact ⟨rfl, rfl, rfl, rfl, rfl, rfl, rfl, fun _ _ => rfl⟩
  | misfires => exact .refl _ _
  | settles task other args =>
    obtain ⟨same, otherOwned, -⟩ := fits
    obtain rfl := Agent.thread.inj same
    cases owned.symm.trans otherOwned
    exact endChain released
  | ran task other args mode work =>
    obtain ⟨same, otherOwned, -⟩ := fits
    obtain rfl := Agent.thread.inj same
    cases owned.symm.trans otherOwned
    exact ending released (endRun_ending _ _ _ _ _ _ _)
  | callsBack _ _ _ unmoved => exact of_unmoved unmoved
  | regrets => exact countError _ _ _ _

end Spared

/-- A trigger that its task no longer holds does no harm, whatever its thread does but for what the
program asks for on it. -/
theorem Sound.spared (sound : Sound state) {next : State} {stack : List Frame}
    {signal : Signal} (active : state.active = some ⟨.thread trigger, stack, signal⟩)
    (owned : state.owner trigger = some number)
    (released : (state.entry number).trigger ≠ some trigger)
    (own : state.isRequest = false) (stepped : state.step = some next) :
    Spared trigger state next := by
  cases step_advance sound.awake stepped with
  | passes agent idle turns => rw [active] at idle; cases idle
  | ends agent signal other turns => exact Spared.of_shift turns.toShift
  | answers agent frame rest signal other same =>
    cases active.symm.trans other
    have replied := sound.replied active
    rw [same]
    refine Spared.trans (Spared.reply owned released (replied.fits sound) ?_ replied.reply)
      (.of_shift replied.turns.toShift)
    rintro value rfl
    simpa only [isRequest, active] using own

theorem Sound.setting_eq (sound : Sound state) {next : State} (stepped : state.step = some next) :
    next.setting = state.setting := by
  cases step_advance sound.awake stepped with
  | passes agent idle turns => exact turns.setting
  | ends agent signal active turns => exact turns.setting
  | answers agent frame rest signal active same =>
    have replied := sound.replied active
    rw [same, replied.turns.setting, (replied.reply.grows sound.linked).setting]

end State

/-! ### Traces -/

namespace Trace

variable {setting : Setting} {past : List State} {state : State}

theorem setting_eq (trace : Trace (.initial setting) past state) : state.setting = setting := by
  induction trace with
  | refl => rfl
  | issue operation trace finished ih => exact ih
  | step trace stepped ih => exact ((trace.sound (.initial setting)).setting_eq stepped).trans ih

/-- As long as no start is blind, every task that runs has a run ahead. -/
theorem firm (trace : Trace (.initial setting) past state) (polite : setting.IsPolite)
    (seeing : ∀ visited ∈ past, ¬ visited.StartsBlind) :
    ∀ visited ∈ state :: past, visited.Firm := by
  induction trace with
  | refl =>
    intro visited member number running
    rw [List.mem_singleton.mp member] at running
    cases running
  | issue operation trace finished ih =>
    have before := ih fun visited member => seeing visited (List.mem_cons_of_mem _ member)
    intro visited member
    rcases List.mem_cons.mp member with rfl | member
    · exact (before _ List.mem_cons_self).of_entries rfl
    · exact before visited member
  | @step past state next trace stepped ih =>
    have before := ih fun visited member => seeing visited (List.mem_cons_of_mem _ member)
    intro visited member
    rcases List.mem_cons.mp member with rfl | member
    · have firm := before state List.mem_cons_self
      have sound := trace.sound (.initial setting)
      cases State.step_advance sound.awake stepped with
      | passes agent idle turns => exact firm.of_entries turns.entries
      | ends agent signal active turns => exact firm.of_entries turns.entries
      | answers agent frame rest signal active same =>
        have replied := sound.replied active
        rw [same]
        refine (firm.reply sound.linked (by rw [trace.setting_eq]; exact polite)
          (replied.fits sound) (fun number started fault blind => ?_) replied.reply).of_entries
          replied.turns.entries
        refine seeing state List.mem_cons_self ⟨⟨number, ?_⟩, fault, blind⟩
        rw [State.deeds, active]
        exact started
    · exact before visited member

/-- A task that is started half an hour before the calendar ends, where clocks are an hour ahead, runs
and has no run ahead. -/
theorem blind_start_plans_no_run : ∃ past state,
    Trace (.initial (.ofRules ((calendarMicros : Int) - 1800000000) (.fixed 3600))) past state ∧
      (state.entry 0).status = .running ∧ (state.entry 0).nextRun = none := by
  have begun : Trace (.initial (.ofRules ((calendarMicros : Int) - 1800000000) (.fixed 3600))) [] _ :=
    .refl
  obtain ⟨added, trace⟩ := begun.perform_perform rfl
    ⟨.add "job" (.text "* * * * *") (.script "work" []), true⟩ ⟨.start "job" .chain [], true⟩ rfl
  exact ⟨_, _, trace, rfl, rfl⟩

end Trace

end Timetable
