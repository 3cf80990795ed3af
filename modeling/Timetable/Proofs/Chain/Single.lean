import Timetable.Proofs.Chain.Pending

/-! At most one stop is pending for a trigger.

A stop that is accepted finds no other stop pending for its trigger, unless a start has left the task
running with no run ahead while it still held a trigger that was to settle.
-/

set_option autoImplicit false

namespace Timetable

/-- The stop that a deed is, of a given trigger. -/
def Deed.stopOf (trigger : Nat) : Deed → Option (Nat × Work)
  | .stopped task other callback => if other = trigger then some (task, callback) else none
  | _ => none

namespace State

/-- The next step starts a task that still holds a trigger, and leaves it running with no run ahead. -/
def Strands (state : State) : Prop :=
  ∃ number next, .started number ∈ state.deeds ∧ (state.entry number).trigger ≠ none ∧
    state.step = some next ∧ (next.entry number).isRunning = true ∧
      (next.entry number).nextRun = none

/-- No stop is pending for a trigger that a stop would be issued against. -/
def Single (state : State) : Prop :=
  ∀ number trigger, state.stoppable? number = some trigger →
    (state.entry number).stopCallback? trigger = none

variable {number trigger : Nat} {state middle later : State} {agent : Agent} {deeds : List Deed}

theorem stoppable?_iff : state.stoppable? number = some trigger ↔
    (state.entry number).isRunning = true ∧ (state.entry number).trigger = some trigger := by
  constructor
  · intro found
    obtain ⟨running, held⟩ := stoppable?_some found
    exact ⟨isRunning_iff.mpr running, held⟩
  · rintro ⟨running, held⟩
    rw [stoppable?, isRunning_iff.mp running, held]

theorem stoppable?_congr (same : later.entry number = state.entry number) :
    later.stoppable? number = state.stoppable? number := by
  rw [stoppable?, same]; rfl

theorem Neutral.stoppable? (neutral : Neutral state later) (number : Nat) :
    later.stoppable? number = state.stoppable? number := by
  rw [State.stoppable?, neutral.status, neutral.held]; rfl

/-- What arming leaves of the task: it is as before if arming failed, and else it is idle or holds the
new trigger. -/
theorem Arming.fate {args : List Value} {result : Except Failure (Option Report)}
    (within : number < state.entries.size) (arming : Arming state number args later result) :
    (∃ failure, result = .error failure) ∧ later.entry number = state.entry number ∨
      (∃ report, result = .ok report) ∧ ((later.entry number).isRunning = false ∨
        (later.entry number).trigger = some state.triggers.size ∧
          (later.entry number).nextRun ≠ none) := by
  have becomes := arming.becomes within
  generalize later.entry number = after at becomes ⊢
  cases becomes with
  | raised failure => exact .inl ⟨⟨failure, rfl⟩, rfl⟩
  | brokenOff report => exact .inr ⟨⟨_, rfl⟩, .inl rfl⟩
  | armed due => exact .inr ⟨⟨_, rfl⟩, .inr ⟨rfl, by rintro ⟨⟩⟩⟩

namespace Single

theorem mono (single : Single state)
    (kept : ∀ number trigger, later.stoppable? number = some trigger →
      state.stoppable? number = some trigger ∧
        ((later.entry number).stopCallback? trigger = (state.entry number).stopCallback? trigger ∨
          (later.entry number).stopCallback? trigger = none)) : Single later := by
  intro number trigger found
  obtain ⟨before, same | taken⟩ := kept number trigger found
  · exact same.trans (single number trigger before)
  · exact taken

theorem of_neutral (single : Single state) (neutral : Neutral state later) : Single later :=
  single.mono fun number trigger found => by
    rw [neutral.stoppable?] at found
    exact ⟨found, .inl (by rw [Entry.stopCallback?, neutral.stops]; rfl)⟩

theorem of_entries (single : Single state) (entries : later.entries = state.entries) :
    Single later := by
  have same : ∀ number, later.entry number = state.entry number := fun number => by
    rw [State.entry, entries]; rfl
  apply single.mono
  intro number trigger found
  rw [stoppable?_congr (same number)] at found
  exact ⟨found, .inl (by rw [same])⟩

theorem updateEntry (single : Single state) {change : Entry → Entry}
    (own : (change (state.entry number)).isRunning = true →
      ∀ trigger, (change (state.entry number)).trigger = some trigger →
      (state.entry number).isRunning = true ∧ (state.entry number).trigger = some trigger ∧
        ((change (state.entry number)).stopCallback? trigger =
            (state.entry number).stopCallback? trigger ∨
          (change (state.entry number)).stopCallback? trigger = none)) :
    Single (state.updateEntry number change) := by
  have changed := fun task => state.entry_updateEntry_cases number task change
  apply single.mono
  intro task trigger found
  rcases changed task with same | ⟨rfl, new⟩
  · rw [stoppable?_congr same] at found
    exact ⟨found, .inl (by rw [same])⟩
  · obtain ⟨running, held⟩ := stoppable?_iff.mp found
    rw [new] at running held ⊢
    obtain ⟨ranBefore, heldBefore, pending⟩ := own running trigger held
    exact ⟨stoppable?_iff.mpr ⟨ranBefore, heldBefore⟩, pending⟩

theorem breakOff (single : Single state) (number : Nat) (report : Report) :
    Single (state.breakOff number report) :=
  single.updateEntry (by rintro ⟨⟩)

theorem endChain (single : Single state) (number trigger : Nat) :
    Single (state.endChain number trigger).1 := by
  apply single.updateEntry
  intro running other held
  obtain ⟨before, different⟩ := held_release held
  have status : ((state.entry number).release trigger).isRunning =
      (state.entry number).isRunning := by
    unfold Entry.release; split <;> rfl
  rw [status] at running
  rw [stopCallback?_release, if_neg different]
  exact ⟨running, before, .inl rfl⟩

theorem abandonChain (single : Single state) (number trigger : Nat) (report : Report) :
    Single (state.abandonChain number trigger report).1 := by
  have dropped : ∀ {middle : State}, Single middle →
      Single (middle.updateEntry number fun entry => entry.dropStop trigger) := by
    refine fun single => single.updateEntry fun running other held => ⟨running, held, ?_⟩
    rw [stopCallback?_dropStop]
    split
    · exact .inr rfl
    · exact .inl rfl
  unfold State.abandonChain
  dsimp only
  split
  · exact dropped (single.breakOff number report)
  · exact dropped (single.of_neutral (.countError _ _ _))

theorem complain (single : Single state) (trigger : Nat) (target : Work) (stage : String)
    (failure : Failure) : Single (state.complain trigger target stage failure).1 := by
  rcases state.complain_state trigger target stage failure with unmoved | ⟨number, report, same⟩
  · exact single.of_neutral unmoved.neutral
  · rw [same]
    exact single.abandonChain number trigger report

/-- Arming a task, where the task is not left as it was with a trigger that is to settle. -/
theorem arming {args : List Value} {result : Except Failure (Option Report)}
    (linked : Linked state) (within : number < state.entries.size)
    (others : ∀ other, other ≠ number → ∀ trigger, state.stoppable? other = some trigger →
      (state.entry other).stopCallback? trigger = none)
    (own : later.entry number = state.entry number → ∀ trigger,
      state.stoppable? number = some trigger → (state.entry number).stopCallback? trigger = none)
    (arming : Arming state number args later result) : Single later := by
  intro task trigger found
  rw [arming.stopCallback? task trigger]
  by_cases same : task = number
  · subst same
    rcases arming.fate within with ⟨-, entry⟩ | ⟨-, idle | ⟨held, -⟩⟩
    · rw [stoppable?_congr entry] at found
      exact own entry trigger found
    · rw [(stoppable?_iff.mp found).1] at idle
      cases idle
    · obtain rfl := Option.some.inj (held.symm.trans (stoppable?_iff.mp found).2)
      cases pending : (state.entry task).stopCallback? state.triggers.size with
      | none => rfl
      | some callback =>
        have owned := ((linked.tasks task).stops _ (mem_of_lookup pending)).1
        exact absurd (Local.within_of_owner owned) (Nat.lt_irrefl _)
  · have entry := arming.local.others task same
    rw [stoppable?_congr entry] at found
    exact others task same trigger found

theorem ending (single : Single state) (linked : Linked state) {args : List Value} {mode : Mode}
    {outcome : Signal} {move : Move}
    (ending : Ending state number trigger args mode outcome later move) : Single later := by
  cases ending with
  | goesOn noted running held arming =>
    have neutral := noted.neutral
    have counted := single.of_neutral neutral
    have within := linked.tidy.range number (linked.tidy.running number running)
    exact Single.arming (linked.neutral neutral) (Nat.lt_of_lt_of_le within neutral.entries)
      (fun other _ => counted other) (fun _ => counted number) arming
  | finished reports noted finished => exact (single.of_neutral noted.neutral).endChain number trigger

/-- A start keeps stops single, unless it strands a task that holds a trigger. -/
theorem startChain (single : Single state) (linked : Linked state)
    (member : number ∈ state.registered) (idle : (state.entry number).isRunning = false)
    (mode : Mode) (args : List Value)
    (seen : (state.entry number).trigger ≠ none →
      ((state.startChain number mode args).1.entry number).isRunning = true →
      ((state.startChain number mode args).1.entry number).nextRun ≠ none) :
    Single (state.startChain number mode args).1 := by
  obtain ⟨_, arming⟩ := startChain_arming mode args idle
  have within := linked.tidy.range number member
  have stopped : (state.entry number).chain.status ≠ .running := by
    simpa [Entry.isRunning, Entry.chain] using idle
  have begun := linked.updateEntry (begin_local mode member)
    ((linked.tasks number).begins stopped mode)
  have entry := entry_begin within mode
  refine Single.arming begun (Nat.lt_of_lt_of_eq within (Store.size_update ..).symm)
    (fun other different trigger found => ?_) (fun same trigger found => ?_) arming
  · have same := (begin_local mode member).others other different
    rw [stoppable?_congr same] at found
    rw [same]
    exact single other trigger found
  · obtain ⟨running, held⟩ := stoppable?_iff.mp found
    rw [entry] at same running held
    rw [same] at seen
    have aimless : (state.entry number).nextRun = none :=
      Option.not_isSome_iff_eq_none.mp fun planned => stopped
        ((linked.tasks number).planned (Option.isSome_iff_ne_none.mp planned)).1
    have taken : (state.entry number).trigger = some trigger := held
    exact absurd aimless (seen (by rw [taken]; rintro ⟨⟩) running)

theorem stopChain (single : Single state) (linked : Linked state) {callback : Work}
    (running : (state.entry number).status = .running)
    (held : (state.entry number).trigger = some trigger) :
    Single (state.stopChain number callback).1 := by
  have owned := ((linked.tasks number).held trigger held).1
  have inside := stopChain_local running held owned callback
  apply single.mono
  intro task other found
  by_cases same : task = number
  · subst same
    have stopped := entry_stopChain running held (linked.range trigger task owned) callback
    rw [stoppable?, stopped] at found
    cases found
  · have entry := inside.others task same
    rw [stoppable?_congr entry] at found
    exact ⟨found, .inl (by rw [entry])⟩

theorem effect (effect : Effect state deeds later) : Single state → Linked state →
    (∀ number, .started number ∉ deeds) → Single later := by
  induction effect with
  | neutral neutral => exact fun single _ _ => single.of_neutral neutral
  | start mode args member idle => exact fun _ _ none => absurd List.mem_cons_self (none _)
  | stop running held called => exact fun single linked _ => single.stopChain linked running held
  | trans earlier _ first second =>
    intro single linked none
    refine second (first single linked fun number member => none number ?_)
      (linked.effect earlier) fun number member => none number ?_
    · exact List.mem_append_left _ member
    · exact List.mem_append_right _ member

theorem reply (single : Single state) (linked : Linked state) {signal : Signal} {frame : Frame}
    {move : Move} (none : ∀ number, .started number ∉ state.frameDeeds agent signal frame)
    (reply : Reply state agent signal frame later move) : Single later := by
  cases reply with
  | plain _ _ unmoved => exact single.of_neutral unmoved.neutral
  | request _ effect => exact Single.effect effect single linked none
  | passed => exact single
  | dispatched => exact single
  | calledBack => exact single
  | waits _ _ _ _ unmoved => exact single.of_neutral unmoved.neutral
  | proceeds => exact single.of_entries (entries_commit _ _ _ _)
  | obeys _ _ unmoved => exact single.of_neutral unmoved.neutral
  | cancelled _ _ _ unmoved => exact single.of_neutral unmoved.neutral
  | breaks => exact (single.of_entries (entries_commit _ _ _ _)).complain _ _ _ _
  | complains => exact single.complain _ _ _ _
  | fires _ unmoved => exact (single.of_neutral (.noteRun _ _ _)).of_neutral unmoved.neutral
  | misfires => exact single
  | settles number trigger args => exact single.endChain number trigger
  | ran number trigger args mode work =>
    exact single.ending linked (endRun_ending _ _ _ _ _ _ _)
  | callsBack _ _ _ unmoved => exact single.of_neutral unmoved.neutral
  | regrets => exact single.of_neutral (.countError _ _ _)

theorem step (single : Single state) (sound : Sound state) {next : State}
    (stepped : state.step = some next) (seeing : ¬ state.Strands) : Single next := by
  cases step_advance sound.awake stepped with
  | passes agent idle turns => exact single.of_entries turns.entries
  | ends agent signal active turns => exact single.of_entries turns.entries
  | answers agent frame rest signal active same =>
    have replied := sound.replied active
    have shift := replied.turns.toShift
    by_cases started : ∃ number, .started number ∈ state.frameDeeds agent signal frame
    · obtain ⟨number, member⟩ := started
      have starts := starts_of_deeds member
      obtain ⟨mode, args, answer⟩ := starts.answer
      rw [same]
      refine of_entries ?_ shift.entries
      have entry : next.entry number = (state.startChain number mode args).1.entry number := by
        rw [same, shift.entry, answer]
      rw [answer]
      refine single.startChain sound.linked starts.member starts.idle mode args
        fun held running aimless => seeing ⟨number, next, ?_, held, stepped, ?_⟩
      · rw [deeds, active]; exact member
      · rw [entry]; exact ⟨running, aimless⟩
    · rw [same]
      exact (single.reply sound.linked (fun number member => started ⟨number, member⟩)
        replied.reply).of_entries shift.entries

end Single

/-- After a task was stranded, a stop would be issued against a trigger for which one is pending. -/
theorem Sound.stranded (sound : Sound state) {next : State} (stepped : state.step = some next)
    (strands : state.Strands) : ¬ next.Single := by
  obtain ⟨number, other, member, held, otherStepped, running, aimless⟩ := strands
  obtain rfl := Option.some.inj (stepped.symm.trans otherStepped)
  obtain ⟨within, idle, mode, args, entry⟩ := sound.starts_step stepped member
  obtain ⟨trigger, holds⟩ := Option.ne_none_iff_exists'.mp held
  have rests : (state.entry number).status = .idle := by
    cases status : (state.entry number).status with
    | idle => rfl
    | running => exact absurd ((isRunning_iff.mpr status).symm.trans idle) (by rintro ⟨⟩)
  have pending := (sound.linked.tasks number).settling rests trigger holds
  obtain ⟨later, result, begins, becomes⟩ := startChain_becomes within idle mode args
  have same : next.entry number = later.entry number := by rw [entry, begins, begun_fst]
  rw [same] at running aimless
  generalize later.entry number = after at becomes running aimless same
  intro single
  cases becomes with
  | raised failure =>
    have none := single number trigger (stoppable?_iff.mpr (by rw [same]; exact ⟨rfl, holds⟩))
    rw [same] at none
    exact pending none
  | brokenOff report => cases running
  | armed due => cases aimless

/-! ### Accepted stops -/

inductive Stops (number trigger : Nat) (deeds : List Deed) (state later : State) : Prop where
  | none : deeds.filterMap (Deed.stopOf trigger) = [] →
      (later.stoppable? number = some trigger → state.stoppable? number = some trigger) →
      Stops number trigger deeds state later
  | once (callback : Work) : deeds.filterMap (Deed.stopOf trigger) = [(number, callback)] →
      state.stoppable? number = some trigger → later.stoppable? number ≠ some trigger →
      (later.entry number).stopCallback? trigger = some callback →
      later.outcome trigger = some ((state.outcome trigger).getD .redirect) →
      Stops number trigger deeds state later

theorem not_mem_of_stopOf {callback : Work}
    (unstopped : deeds.filterMap (Deed.stopOf trigger) = []) :
    .stopped number trigger callback ∉ deeds := by
  intro member
  have found := List.filterMap_eq_nil_iff.mp unstopped _ member
  rw [Deed.stopOf, if_pos rfl] at found
  cases found

theorem Keeps.unstopped (keeps : Keeps agent deeds state later) (other : agent ≠ .thread trigger)
    (owned : later.owner trigger ≠ none)
    (unstopped : deeds.filterMap (Deed.stopOf trigger) = []) :
    (∀ number, (later.entry number).stopCallback? trigger =
        (state.entry number).stopCallback? trigger) ∧
      later.outcome trigger = state.outcome trigger := by
  refine ⟨fun number => ?_, ?_⟩
  · rcases keeps.pending number trigger with same | ⟨own, -⟩ | ⟨callback, -, stopped⟩
    · exact same
    · exact absurd own other
    · exact absurd stopped (not_mem_of_stopOf unstopped)
  · rcases keeps.outcome trigger owned with same | own | ⟨number, callback, stopped⟩
    · exact same
    · exact absurd own other
    · exact absurd stopped (not_mem_of_stopOf unstopped)

theorem Stops.stopChain (linked : Linked state) {other held : Nat} {callback : Work}
    (running : (state.entry other).status = .running)
    (holds : (state.entry other).trigger = some held) (owned : state.owner trigger = some number) :
    Stops number trigger [.stopped other held callback] state
      (state.stopChain other callback).1 := by
  have heldOwned := ((linked.tasks other).held held holds).1
  have within := linked.range held other heldOwned
  have inside := stopChain_local running holds heldOwned callback
  have stopped := entry_stopChain running holds within callback
  have idle : (state.stopChain other callback).1.stoppable? other ≠ some trigger := by
    rw [stoppable?, stopped]; rintro ⟨⟩
  by_cases same : held = trigger
  · subst same
    obtain rfl := Option.some.inj (heldOwned.symm.trans owned)
    refine .once callback ?_ (stoppable?_iff.mpr ⟨isRunning_iff.mpr running, holds⟩) idle ?_ ?_
    · simp [Deed.stopOf]
    · rw [stopped, Entry.stopCallback?, lookup_stop, if_pos rfl]
    · have decided := outcome_commit (show held < (state.updateEntry other fun entry =>
        entry.stop held callback).triggers.size from Local.within_of_owner heldOwned) .redirect
        (some (.settle other held)) held
      rw [if_pos rfl] at decided
      rw [stopChain_eq running holds, (Unmoved.tell _ _ _).outcome, decided]
      rfl
  · refine .none ?_ fun found => ?_
    · simp [Deed.stopOf, same]
    · by_cases task : number = other
      · subst task; exact absurd found idle
      · rwa [stoppable?_congr (inside.others number task)] at found

theorem Effect.stops (effect : Effect state deeds later) : Linked state →
    (∀ number, .started number ∉ deeds) → state.owner trigger = some number →
    Stops number trigger deeds state later := by
  induction effect with
  | neutral neutral =>
    exact fun _ _ _ => .none rfl fun found => by rwa [neutral.stoppable?] at found
  | start mode args member idle => exact fun _ none => absurd List.mem_cons_self (none _)
  | stop running held called => exact fun linked _ owned => .stopChain linked running held owned
  | @trans state middle later first second earlier after before ih =>
    intro linked none owned
    have grows := earlier.grows linked
    have middleLinked := linked.effect earlier
    have laterOwned := (after.grows middleLinked).owner _ _ (grows.owner _ _ owned)
    have laterKept : Keeps .main _ middle later := .effect after
    have head := before linked (fun task member => none task (List.mem_append_left _ member)) owned
    have tail := ih middleLinked (fun task member => none task (List.mem_append_right _ member))
      (grows.owner _ _ owned)
    cases head with
    | none unstopped kept =>
      cases tail with
      | none unstoppedToo keptToo =>
        refine .none ?_ fun found => kept (keptToo found)
        rw [List.filterMap_append, unstopped, unstoppedToo]; rfl
      | once callback stopped stoppable finished pending decided =>
        have earlierKept : Keeps .main _ state middle := .effect earlier
        obtain ⟨-, same⟩ := earlierKept.unstopped (by rintro ⟨⟩)
          (by rw [grows.owner _ _ owned]; rintro ⟨⟩) unstopped
        refine .once callback ?_ (kept stoppable) finished pending (by rw [decided, same])
        rw [List.filterMap_append, unstopped, stopped]; rfl
    | once callback stopped stoppable finished pending decided =>
      cases tail with
      | none unstoppedToo keptToo =>
        obtain ⟨samePending, same⟩ := laterKept.unstopped (by rintro ⟨⟩)
          (by rw [laterOwned]; rintro ⟨⟩) unstoppedToo
        refine .once callback ?_ stoppable (fun found => finished (keptToo found)) ?_ ?_
        · rw [List.filterMap_append, unstoppedToo, stopped]; rfl
        · rw [samePending, pending]
        · rw [same, decided]
      | once other stoppedToo stoppableToo => exact absurd stoppableToo finished

end State

/-! ### Traces -/

namespace Trace

variable {setting : Setting} {past : List State} {state : State}

end Trace

end Timetable
