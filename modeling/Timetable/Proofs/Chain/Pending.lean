import Timetable.Proofs.Chain.Planned

/-! Pending stops.

A stop is pending from where it is accepted to where the thread of the trigger that it was issued
against takes its callback. Nothing else touches it, but for another stop of the same trigger.
-/

set_option autoImplicit false

namespace Timetable

theorem stopCallback?_dropStop (entry : Entry) (trigger other : Nat) :
    (entry.dropStop trigger).stopCallback? other =
      if other = trigger then none else entry.stopCallback? other :=
  lookup_dropStop entry trigger other

theorem stopCallback?_release (entry : Entry) (trigger other : Nat) :
    (entry.release trigger).stopCallback? other =
      if other = trigger then none else entry.stopCallback? other := by
  unfold Entry.release
  split
  · exact stopCallback?_dropStop _ trigger other
  · exact stopCallback?_dropStop entry trigger other

theorem held_release {entry : Entry} {trigger held : Nat}
    (kept : (entry.release trigger).trigger = some held) :
    entry.trigger = some held ∧ held ≠ trigger := by
  unfold Entry.release at kept
  split at kept
  · cases kept
  · next released => exact ⟨kept, fun same => released (same ▸ kept)⟩

namespace State

/-- `Keeps agent deeds state later`: pending stops, triggers that are held and decisions stay as they
are, but for those of the thread that runs and those of triggers that are stopped. -/
structure Keeps (agent : Agent) (deeds : List Deed) (state later : State) : Prop where
  triggers : state.triggers.size ≤ later.triggers.size
  owner : ∀ trigger < state.triggers.size, later.owner trigger = state.owner trigger
  pending : ∀ number trigger,
    (later.entry number).stopCallback? trigger = (state.entry number).stopCallback? trigger ∨
      agent = .thread trigger ∧ (later.entry number).stopCallback? trigger = none ∨
      ∃ callback, (later.entry number).stopCallback? trigger = some callback ∧
        .stopped number trigger callback ∈ deeds
  held : ∀ number, ∀ trigger < state.triggers.size,
    (later.entry number).trigger = some trigger → (state.entry number).trigger = some trigger
  outcome : ∀ trigger, later.owner trigger ≠ none →
    later.outcome trigger = state.outcome trigger ∨ agent = .thread trigger ∨
      ∃ number callback, .stopped number trigger callback ∈ deeds

variable {number trigger : Nat} {state middle later : State} {agent : Agent} {deeds : List Deed}

theorem outcome_of_le (state : State) {trigger : Nat} (beyond : state.triggers.size ≤ trigger) :
    state.outcome trigger = none := by
  rw [outcome, state.trigger_of_le beyond]; rfl

namespace Keeps

theorem refl (agent : Agent) (deeds : List Deed) (state : State) :
    Keeps agent deeds state state :=
  ⟨Nat.le_refl _, fun _ _ => rfl, fun _ _ => .inl rfl, fun _ _ _ => id, fun _ _ => .inl rfl⟩

theorem trans {first second : List Deed} (before : Keeps agent first state middle)
    (after : Keeps agent second middle later) : Keeps agent (first ++ second) state later where
  triggers := Nat.le_trans before.triggers after.triggers
  owner trigger within :=
    (after.owner trigger (Nat.lt_of_lt_of_le within before.triggers)).trans
      (before.owner trigger within)
  pending number trigger := by
    rcases after.pending number trigger with same | taken | ⟨callback, found, stopped⟩
    · rw [same]
      rcases before.pending number trigger with unchanged | taken | ⟨callback, found, stopped⟩
      · exact .inl unchanged
      · exact .inr (.inl taken)
      · exact .inr (.inr ⟨callback, found, List.mem_append_left _ stopped⟩)
    · exact .inr (.inl taken)
    · exact .inr (.inr ⟨callback, found, List.mem_append_right _ stopped⟩)
  held number trigger within held :=
    before.held number trigger within
      (after.held number trigger (Nat.lt_of_lt_of_le within before.triggers) held)
  outcome trigger owned := by
    have first : middle.outcome trigger = state.outcome trigger ∨ agent = .thread trigger ∨
        ∃ number callback, .stopped number trigger callback ∈ first := by
      by_cases within : trigger < middle.triggers.size
      · exact before.outcome trigger (after.owner trigger within ▸ owned)
      · have beyond := Nat.le_of_not_lt within
        rw [middle.outcome_of_le beyond,
          state.outcome_of_le (Nat.le_trans before.triggers beyond)]
        exact .inl rfl
    rcases after.outcome trigger owned with same | own | ⟨number, callback, stopped⟩
    · rw [same]
      rcases first with same | own | ⟨number, callback, stopped⟩
      · exact .inl same
      · exact .inr (.inl own)
      · exact .inr (.inr ⟨number, callback, List.mem_append_left _ stopped⟩)
    · exact .inr (.inl own)
    · exact .inr (.inr ⟨number, callback, List.mem_append_right _ stopped⟩)

theorem mono {more : List Deed} (keeps : Keeps agent deeds state later)
    (within : ∀ deed ∈ deeds, deed ∈ more) : Keeps agent more state later where
  triggers := keeps.triggers
  owner := keeps.owner
  pending number trigger := by
    rcases keeps.pending number trigger with same | own | ⟨callback, found, stopped⟩
    · exact .inl same
    · exact .inr (.inl own)
    · exact .inr (.inr ⟨callback, found, within _ stopped⟩)
  held := keeps.held
  outcome trigger owned := by
    rcases keeps.outcome trigger owned with same | own | ⟨number, callback, stopped⟩
    · exact .inl same
    · exact .inr (.inl own)
    · exact .inr (.inr ⟨number, callback, within _ stopped⟩)

theorem andThen (before : Keeps agent deeds state middle) (after : Keeps agent deeds middle later) :
    Keeps agent deeds state later :=
  (before.trans after).mono fun _ member => (List.mem_append.mp member).elim id id

theorem of_neutral (neutral : Neutral state later) : Keeps agent deeds state later where
  triggers := neutral.triggers
  owner trigger _ := neutral.owner_eq trigger
  pending number trigger := by
    left; rw [Entry.stopCallback?, neutral.stops]; rfl
  held number trigger _ held := by rw [← neutral.held]; exact held
  outcome trigger owned := by
    left
    obtain ⟨number, found⟩ := Option.ne_none_iff_exists'.mp owned
    rw [State.outcome, neutral.owned trigger number ((neutral.owner_eq trigger).symm.trans found)]
    rfl

theorem of_unmoved (unmoved : Unmoved state later) : Keeps agent deeds state later :=
  of_neutral unmoved.neutral

theorem updateEntry {change : Entry → Entry}
    (pending : ∀ other,
      (change (state.entry number)).stopCallback? other =
          (state.entry number).stopCallback? other ∨
        agent = .thread other ∧ (change (state.entry number)).stopCallback? other = none ∨
        ∃ callback, (change (state.entry number)).stopCallback? other = some callback ∧
          .stopped number other callback ∈ deeds)
    (held : ∀ other, (change (state.entry number)).trigger = some other →
      (state.entry number).trigger = some other) :
    Keeps agent deeds state (state.updateEntry number change) := by
  refine ⟨Nat.le_refl _, fun _ _ => rfl, fun task other => ?_, fun task other _ kept => ?_,
    fun _ _ => .inl rfl⟩
  · rw [entry_updateEntry]
    split
    · next same => rw [same.1]; exact pending other
    · exact .inl rfl
  · rw [entry_updateEntry] at kept
    split at kept
    · next same => rw [same.1] at kept ⊢; exact held other kept
    · exact kept

theorem takes {change : Entry → Entry} (own : agent = .thread trigger)
    (taken : ∀ entry other, (change entry).stopCallback? other =
      if other = trigger then none else entry.stopCallback? other)
    (held : ∀ entry other, (change entry).trigger = some other → entry.trigger = some other) :
    Keeps agent deeds state (state.updateEntry number change) := by
  refine updateEntry (fun other => ?_) (held _)
  rw [taken]
  split
  · next same => exact .inr (.inl ⟨same ▸ own, rfl⟩)
  · exact .inl rfl

/-- Decisions of the thread itself, or of a trigger that is stopped. -/
theorem commit (decided : Outcome) (callback : Option Work)
    (own : agent = .thread trigger ∨ ∃ number work, .stopped number trigger work ∈ deeds) :
    Keeps agent deeds state (state.commit trigger decided callback).1 := by
  refine ⟨?triggers, fun other _ => owner_commit _ _ _ _ other, fun task other => ?pending,
    fun task other _ held => ?held, fun other _ => ?outcome⟩
  case triggers =>
    by_cases undecided : state.outcome trigger = none
    · rw [commit_undecided undecided]; exact Nat.le_of_eq (Store.size_update ..).symm
    · simp only [commit_decided undecided, Nat.le_refl]
  case pending =>
    rw [entry_commit]; exact .inl rfl
  case held =>
    rw [entry_commit] at held; exact held
  case outcome =>
    by_cases same : other = trigger
    · rw [same]; exact .inr own
    · by_cases undecided : state.outcome trigger = none
      · rw [State.outcome, trigger_commit undecided, if_neg fun both => same both.1]
        exact .inl rfl
      · rw [commit_decided undecided]; exact .inl rfl

theorem breakOff (state : State) (number : Nat) (report : Report) :
    Keeps agent deeds state (state.breakOff number report) :=
  updateEntry (fun _ => .inl rfl) (by rintro _ ⟨⟩)

theorem spawned {args : List Value} {due : DateTime} {thread : Thread}
    (spawned : Spawned state later number args due thread) : Keeps agent deeds state later := by
  refine ⟨by rw [spawned.size]; exact Nat.le_succ _, fun other within => ?owner, fun task other => ?pending,
    fun task other _ held => ?held, fun other _ => ?outcome⟩
  case owner =>
    rw [State.owner, spawned.old other (Nat.ne_of_lt within)]; rfl
  case pending =>
    rw [spawned.entry]; exact .inl rfl
  case held =>
    rw [spawned.entry] at held; exact held
  case outcome =>
    left
    by_cases new : other = state.triggers.size
    · rw [new, spawned.outcome_new, state.outcome_of_le (Nat.le_refl _)]
    · rw [State.outcome, spawned.old other new]; rfl

theorem arming {args : List Value} {result : Except Failure (Option Report)}
    (arming : Arming state number args later result) : Keeps agent deeds state later := by
  cases arming with
  | blind => exact .refl _ _ _
  | left unmoved => exact .of_unmoved unmoved
  | unplanned report unmoved => exact (of_unmoved unmoved).andThen (breakOff _ _ _)
  | unstarted report unmoved made =>
    exact ((of_unmoved unmoved).andThen (spawned made)).andThen (breakOff _ _ _)
  | @armed planned fresh _ due unmoved made armed =>
    have before : Keeps agent deeds state fresh := (of_unmoved unmoved).andThen (spawned made)
    have size : planned.triggers.size = state.triggers.size := by rw [unmoved.triggers]
    have triggers : later.triggers = fresh.triggers := armed.triggers
    have entry : ∀ task, (later.entry task).stops = (state.entry task).stops ∧
        ((later.entry task).trigger = (state.entry task).trigger ∨
          (later.entry task).trigger = some state.triggers.size) := by
      intro task
      rw [armed.entry, entry_updateEntry, made.entry, unmoved.entry]
      split
      · exact ⟨rfl, .inr rfl⟩
      · exact ⟨rfl, .inl rfl⟩
    refine ⟨by rw [triggers]; exact before.triggers, fun other within => ?owner, fun task other => ?pending,
      fun task other within held => ?held, fun other owned => ?outcome⟩
    case owner =>
      rw [armed.owner]; exact before.owner other within
    case pending =>
      rw [Entry.stopCallback?, (entry task).1]; exact .inl rfl
    case held =>
      rcases (entry task).2 with same | new
      · rw [← same]; exact held
      · rw [new] at held
        exact absurd (Option.some.inj held) (Nat.ne_of_gt within)
    case outcome =>
      rw [armed.owner] at owned
      rw [armed.outcome]
      exact before.outcome other owned

theorem endChain (own : agent = .thread trigger) (state : State) (number : Nat) :
    Keeps agent deeds state (state.endChain number trigger).1 :=
  takes own (fun entry other => stopCallback?_release entry trigger other)
    fun _ _ held => (held_release held).1

theorem abandonChain (own : agent = .thread trigger) (state : State) (number : Nat)
    (report : Report) : Keeps agent deeds state (state.abandonChain number trigger report).1 := by
  have dropped : ∀ middle : State, Keeps agent deeds middle
      (middle.updateEntry number fun entry => entry.dropStop trigger) :=
    fun middle => takes own (fun entry other => stopCallback?_dropStop entry trigger other)
      fun _ _ => id
  unfold State.abandonChain
  dsimp only
  split
  · exact (breakOff _ _ _).andThen (dropped _)
  · exact (of_neutral (.countError _ _ _)).andThen (dropped _)

theorem complain (own : agent = .thread trigger) (state : State) (target : Work) (stage : String)
    (failure : Failure) :
    Keeps agent deeds state (state.complain trigger target stage failure).1 := by
  rcases state.complain_state trigger target stage failure with unmoved | ⟨number, report, same⟩
  · exact .of_unmoved unmoved
  · rw [same]
    exact abandonChain own _ _ report

theorem ending (own : agent = .thread trigger) {args : List Value} {mode : Mode}
    {outcome : Signal} {move : Move}
    (ending : Ending state number trigger args mode outcome later move) :
    Keeps agent deeds state later := by
  cases ending with
  | goesOn noted running held arming =>
    exact (of_neutral noted.neutral).andThen (Keeps.arming arming)
  | finished reports noted finished =>
    exact (of_neutral noted.neutral).andThen (endChain own _ _)

theorem startChain (mode : Mode) (args : List Value)
    (idle : (state.entry number).isRunning = false) :
    Keeps agent deeds state (state.startChain number mode args).1 := by
  obtain ⟨_, started⟩ := startChain_arming mode args idle
  exact (updateEntry (fun _ => .inl rfl) fun _ => id).andThen (arming started)

theorem stopChain {callback : Work} (running : (state.entry number).status = .running)
    (held : (state.entry number).trigger = some trigger) :
    Keeps agent [.stopped number trigger callback] state (state.stopChain number callback).1 := by
  rw [stopChain_eq running held]
  have stopped : Keeps agent [.stopped number trigger callback] state
      (state.updateEntry number fun entry => entry.stop trigger callback) := by
    refine updateEntry (fun other => ?_) fun _ => id
    rw [Entry.stopCallback?, lookup_stop]
    split
    · next same => exact .inr (.inr ⟨callback, rfl, by rw [same]; exact List.mem_cons_self⟩)
    · exact .inl rfl
  have committed : Keeps agent [.stopped number trigger callback]
      (state.updateEntry number fun entry => entry.stop trigger callback) _ :=
    .commit .redirect (some (.settle number trigger)) (.inr ⟨number, callback, List.mem_cons_self⟩)
  exact (stopped.andThen committed).andThen (of_unmoved (.tell _ _ _))

theorem effect (effect : Effect state deeds later) : Keeps agent deeds state later := by
  induction effect with
  | neutral neutral => exact of_neutral neutral
  | start mode args member idle => exact startChain mode args idle
  | stop running held called => exact stopChain running held
  | trans _ _ first second => exact first.trans second

theorem reply {signal : Signal} {frame : Frame} {move : Move} (fits : Fits state agent frame)
    (reply : Reply state agent signal frame later move) :
    Keeps agent (state.frameDeeds agent signal frame) state later := by
  have own : ∀ {trigger}, frame.CountsDown trigger → agent = .thread trigger := by
    rintro trigger (_ | _) <;> exact fits
  cases reply with
  | plain _ _ unmoved => exact of_unmoved unmoved
  | request _ effect => exact Keeps.effect effect
  | passed => exact .refl _ _ _
  | dispatched => exact .refl _ _ _
  | calledBack => exact .refl _ _ _
  | waits _ _ _ _ unmoved => exact of_unmoved unmoved
  | proceeds counts => exact commit _ _ (.inl (own counts))
  | obeys _ _ unmoved => exact of_unmoved unmoved
  | cancelled _ _ _ unmoved => exact of_unmoved unmoved
  | breaks fault counts =>
    exact (commit _ _ (.inl (own counts))).andThen (complain (own counts) _ _ _ _)
  | complains => exact complain fits.1 _ _ _ _
  | fires _ unmoved => exact (of_neutral (.noteRun _ _ _)).andThen (of_unmoved unmoved)
  | misfires => exact .refl _ _ _
  | settles number trigger args => exact endChain fits.1 _ _
  | ran number trigger args mode work => exact ending fits.1 (endRun_ending _ _ _ _ _ _ _)
  | callsBack _ _ _ unmoved => exact of_unmoved unmoved
  | regrets => exact of_neutral (.countError _ _ _)

end Keeps

theorem Arming.stopCallback? {args : List Value} {result : Except Failure (Option Report)}
    (arming : Arming state number args later result) (task trigger : Nat) :
    (later.entry task).stopCallback? trigger = (state.entry task).stopCallback? trigger := by
  have keeps : Keeps .main [] state later := .arming arming
  rcases keeps.pending task trigger with same | ⟨main, -⟩ | ⟨_, -, stopped⟩
  · exact same
  · cases main
  · cases stopped

end State

end Timetable
