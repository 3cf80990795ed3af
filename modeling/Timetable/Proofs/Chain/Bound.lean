import Timetable.Proofs.Chain.Local

/-! What binds tasks to their triggers.

A task holds the trigger that is armed for it, and goes on holding it while a stop of it settles. Five
fields of the task and the decisions of all its triggers keep in step, whatever becomes of the chain.
-/

set_option autoImplicit false

namespace Timetable

/-! ### Pending stops -/

theorem lookup_dropped (stops : List (Nat × Work)) (trigger other : Nat) :
    (stops.filter fun stop => decide (stop.1 ≠ trigger)).lookup other =
      if other = trigger then none else stops.lookup other := by
  induction stops with
  | nil => simp
  | cons stop rest ih =>
    obtain ⟨number, work⟩ := stop
    by_cases same : number = trigger
    · rw [List.filter_cons_of_neg (by simp [same]), ih]
      by_cases found : other = trigger
      · simp [found]
      · have skipped : (other == number) = false := by simpa [same] using found
        simp only [List.lookup_cons, skipped, if_neg found]
    · rw [List.filter_cons_of_pos (by simp [same]), List.lookup_cons, List.lookup_cons, ih]
      by_cases found : other = number
      · simp [found, same]
      · have skipped : (other == number) = false := by simpa using found
        simp only [skipped]

theorem lookup_stop (entry : Entry) (trigger : Nat) (callback : Work) (other : Nat) :
    (entry.stop trigger callback).stops.lookup other =
      if other = trigger then some callback else entry.stops.lookup other := by
  show List.lookup other ((trigger, callback) :: (entry.dropStop trigger).stops) = _
  rw [List.lookup_cons]
  by_cases same : other = trigger
  · simp [same]
  · simp only [beq_eq_false_iff_ne.mpr same, if_neg same]
    exact (lookup_dropped _ _ _).trans (if_neg same)

theorem lookup_dropStop (entry : Entry) (trigger other : Nat) :
    (entry.dropStop trigger).stops.lookup other =
      if other = trigger then none else entry.stops.lookup other :=
  lookup_dropped entry.stops trigger other

theorem mem_of_lookup {stops : List (Nat × Work)} {trigger : Nat} {callback : Work}
    (found : stops.lookup trigger = some callback) : (trigger, callback) ∈ stops := by
  obtain ⟨before, after, same, -⟩ := List.lookup_eq_some_iff.mp found
  exact same ▸ List.mem_append_right before List.mem_cons_self

namespace State

structure Bound (state : State) (number : Nat) (chain : Chain) : Prop where
  /-- An undecided trigger is the one that is armed. -/
  armed : ∀ trigger, state.owner trigger = some number → state.isStarted trigger = true →
    state.outcome trigger = none → chain.trigger = some trigger ∧ chain.status = .running ∧
      chain.nextRun = (state.trigger trigger).due
  held : ∀ trigger, chain.trigger = some trigger →
    state.owner trigger = some number ∧ state.isStarted trigger = true
  /-- Stops are pending for decided triggers only. -/
  stops : ∀ stop ∈ chain.stops, state.owner stop.1 = some number ∧
    state.isStarted stop.1 = true ∧ state.outcome stop.1 ≠ none ∧ stop.2.isCallback = true
  settling : chain.status = .idle → ∀ trigger, chain.trigger = some trigger →
    chain.stops.lookup trigger ≠ none
  redirected : ∀ trigger, chain.trigger = some trigger →
    state.outcome trigger = some .redirect → chain.stops.lookup trigger ≠ none
  planned : chain.nextRun ≠ none → chain.status = .running ∧
    ∃ trigger, chain.trigger = some trigger ∧ chain.stops.lookup trigger = none

/-- Every chain is bound to the triggers of its task, and these have the work of such triggers. -/
structure Linked (state : State) : Prop where
  tidy : state.Tidy
  range : ∀ trigger number, state.owner trigger = some number → number < state.entries.size
  work : ∀ trigger number, state.owner trigger = some number →
    (state.trigger trigger).work = .fire number trigger
  redirect : ∀ trigger number, state.owner trigger = some number →
    state.outcome trigger = some .redirect →
    (state.trigger trigger).decision.callback = some (.settle number trigger)
  tasks : ∀ number, Bound state number (state.entry number).chain

/-- Every trigger of a task whose thread was started is decided. -/
def Settled (state : State) (number : Nat) : Prop :=
  ∀ trigger, state.owner trigger = some number → state.isStarted trigger = true →
    state.outcome trigger ≠ none

variable {number : Nat} {state later : State} {chain : Chain}

namespace Bound

theorem settled_of_idle (bound : Bound state number chain) (idle : chain.status ≠ .running) :
    Settled state number :=
  fun trigger owned started undecided => idle (bound.armed trigger owned started undecided).2.1

theorem settled_of_held (bound : Bound state number chain) {trigger : Nat}
    (held : chain.trigger = some trigger) (decided : state.outcome trigger ≠ none) :
    Settled state number := by
  intro other owned started undecided
  have same := held.symm.trans (bound.armed other owned started undecided).1
  cases same
  exact decided undecided

/-- A chain stays bound while the triggers of its task stay as they are. -/
theorem congr (bound : Bound state number chain)
    (owner : ∀ trigger, later.owner trigger = some number ↔ state.owner trigger = some number)
    (started : ∀ trigger, state.owner trigger = some number →
      later.isStarted trigger = state.isStarted trigger)
    (outcome : ∀ trigger, state.owner trigger = some number →
      later.outcome trigger = state.outcome trigger)
    (due : ∀ trigger, state.owner trigger = some number →
      (later.trigger trigger).due = (state.trigger trigger).due) :
    Bound later number chain where
  armed trigger owned running undecided := by
    have before := (owner trigger).mp owned
    rw [started trigger before] at running
    rw [outcome trigger before] at undecided
    rw [due trigger before]
    exact bound.armed trigger before running undecided
  held trigger held := by
    obtain ⟨owned, running⟩ := bound.held trigger held
    exact ⟨(owner trigger).mpr owned, by rw [started trigger owned, running]⟩
  stops stop member := by
    obtain ⟨owned, running, decided, callback⟩ := bound.stops stop member
    exact ⟨(owner stop.1).mpr owned, by rw [started stop.1 owned, running],
      by rw [outcome stop.1 owned]; exact decided, callback⟩
  settling := bound.settling
  redirected trigger held redirect := by
    rw [outcome trigger (bound.held trigger held).1] at redirect
    exact bound.redirected trigger held redirect
  planned := bound.planned

theorem of_triggers (bound : Bound state number chain)
    (same : ∀ trigger, later.trigger trigger = state.trigger trigger) :
    Bound later number chain := by
  refine bound.congr (fun trigger => by rw [owner, same]; rfl) (fun trigger _ => ?_)
    (fun trigger _ => ?_) fun trigger _ => by rw [same]
  · rw [isStarted, same]; rfl
  · rw [outcome, same]; rfl

end Bound

/-! ### Steps of a chain -/

namespace Bound

theorem begins (bound : Bound state number chain) (idle : chain.status ≠ .running)
    (mode : Mode) : Bound state number { chain with mode, status := .running } where
  armed trigger owned started undecided :=
    absurd (bound.armed trigger owned started undecided).2.1 idle
  held := bound.held
  stops := bound.stops
  settling := by rintro ⟨⟩
  redirected := bound.redirected
  planned planned := absurd (bound.planned planned).1 idle

theorem breaksOff (bound : Bound state number chain) (settled : Settled state number) :
    Bound state number { chain with status := .idle, trigger := none, nextRun := none } where
  armed trigger owned started undecided := absurd undecided (settled trigger owned started)
  held := by rintro _ ⟨⟩
  stops := bound.stops
  settling := by rintro _ _ ⟨⟩
  redirected := by rintro _ ⟨⟩
  planned := fun planned => absurd rfl planned

/-- The callback of a stop is taken from a chain that does not hold the trigger of the stop. -/
theorem drops (bound : Bound state number chain) {trigger : Nat}
    (released : chain.trigger ≠ some trigger) {stops : List (Nat × Work)}
    (kept : ∀ stop ∈ stops, stop ∈ chain.stops)
    (lookup : ∀ other, other ≠ trigger → stops.lookup other = chain.stops.lookup other) :
    Bound state number { chain with stops } where
  armed := bound.armed
  held := bound.held
  stops stop member := bound.stops stop (kept stop member)
  settling idle other held := by
    rw [lookup other (fun same => released (same ▸ held))]
    exact bound.settling idle other held
  redirected other held redirect := by
    rw [lookup other (fun same => released (same ▸ held))]
    exact bound.redirected other held redirect
  planned planned := by
    obtain ⟨running, other, held, pending⟩ := bound.planned planned
    exact ⟨running, other, held,
      (lookup other fun same => released (same ▸ held)).trans pending⟩

theorem releases (bound : Bound state number chain) (settled : Settled state number)
    {stops : List (Nat × Work)} (kept : ∀ stop ∈ stops, stop ∈ chain.stops) :
    Bound state number { chain with trigger := none, nextRun := none, stops } where
  armed trigger owned started undecided := absurd undecided (settled trigger owned started)
  held := by rintro _ ⟨⟩
  stops stop member := bound.stops stop (kept stop member)
  settling := by rintro _ _ ⟨⟩
  redirected := by rintro _ ⟨⟩
  planned := fun planned => absurd rfl planned

end Bound

/-- What only one chain does keeps all chains bound if it keeps that one bound. -/
theorem Linked.local (linked : Linked state) (inside : Local number state later)
    (within : ∀ trigger, later.owner trigger = some number → number < state.entries.size)
    (bound : Bound later number (later.entry number).chain) : Linked later where
  tidy := inside.tidy linked.tidy
  range trigger task owned := by
    rw [inside.size]
    by_cases old : trigger < state.triggers.size
    · exact linked.range trigger task ((inside.owner_eq old).symm.trans owned)
    · rcases inside.born trigger (Nat.le_of_not_lt old) with absent | ⟨mine, -⟩
      · rw [owner, absent] at owned; cases owned
      · obtain rfl := Option.some.inj (mine.symm.trans owned)
        exact within trigger owned
  work trigger task owned := by
    by_cases old : trigger < state.triggers.size
    · rw [inside.kept trigger old]
      exact linked.work trigger task ((inside.owner_eq old).symm.trans owned)
    · rcases inside.born trigger (Nat.le_of_not_lt old) with absent | ⟨mine, work, -⟩
      · rw [owner, absent] at owned; cases owned
      · obtain rfl := Option.some.inj (mine.symm.trans owned)
        exact work
  redirect trigger task owned redirect := by
    have unchanged : (later.trigger trigger).decision = (state.trigger trigger).decision →
        state.owner trigger = some task →
        (later.trigger trigger).decision.callback = some (.settle task trigger) := by
      intro same before
      rw [same]
      exact linked.redirect trigger task before (by rw [outcome, ← same]; exact redirect)
    by_cases mine : task = number
    · subst mine
      rcases inside.redirected trigger owned redirect with settles | same
      · exact settles
      · have old := Local.within_of_outcome (show state.outcome trigger = some .redirect by
          rw [outcome, ← same]; exact redirect)
        exact unchanged same ((inside.owner_eq old).symm.trans owned)
    · have old : trigger < state.triggers.size := by
        apply Nat.lt_of_not_le
        intro beyond
        rcases inside.born trigger beyond with absent | ⟨other, -⟩
        · rw [owner, absent] at owned; cases owned
        · exact mine (Option.some.inj (owned.symm.trans other))
      have before := (inside.owner_eq old).symm.trans owned
      have foreign : state.owner trigger ≠ some number := by
        rw [before]
        exact fun same => mine (Option.some.inj same)
      exact unchanged (by rw [inside.foreign trigger old foreign]) before
  tasks task := by
    by_cases mine : task = number
    · subst mine; exact bound
    · rw [inside.others task mine]
      have same : ∀ trigger, state.owner trigger = some task →
          later.trigger trigger = state.trigger trigger := by
        intro trigger owned
        apply inside.foreign trigger (Local.within_of_owner owned)
        rw [owned]
        exact fun same => mine (Option.some.inj same)
      refine (linked.tasks task).congr (fun trigger => ⟨fun owned => ?mine, fun owned => ?owned⟩)
        ?started ?decided ?due
      case mine =>
        by_cases old : trigger < state.triggers.size
        · exact (inside.owner_eq old).symm.trans owned
        · rcases inside.born trigger (Nat.le_of_not_lt old) with absent | ⟨other, -⟩
          · rw [owner, absent] at owned; cases owned
          · exact absurd (Option.some.inj (owned.symm.trans other)) mine
      case owned =>
        rw [owner, same trigger owned]; exact owned
      case started =>
        intro trigger owned; rw [isStarted, same trigger owned]; rfl
      case decided =>
        intro trigger owned; rw [outcome, same trigger owned]; rfl
      case due =>
        intro trigger owned; rw [same trigger owned]

/-! ### Decisions -/

theorem outcome_commit {trigger : Nat} (within : trigger < state.triggers.size)
    (decided : Outcome) (callback : Option Work) (other : Nat) :
    (state.commit trigger decided callback).1.outcome other =
      if other = trigger then some ((state.outcome trigger).getD decided)
      else state.outcome other := by
  by_cases undecided : state.outcome trigger = none
  · rw [outcome, trigger_commit undecided]
    by_cases same : other = trigger
    · rw [if_pos ⟨same, within⟩, if_pos same, undecided]; rfl
    · rw [if_neg fun both => same both.1, if_neg same]; rfl
  · rw [commit_decided undecided]
    by_cases same : other = trigger
    · obtain ⟨taken, found⟩ := Option.ne_none_iff_exists'.mp undecided
      rw [if_pos same, same, found]; rfl
    · rw [if_neg same]

theorem commit_keeps (state : State) (trigger : Nat) (decided : Outcome)
    (callback : Option Work) (other : Nat) :
    (state.commit trigger decided callback).1.trigger other = { state.trigger other with
      decision := ((state.commit trigger decided callback).1.trigger other).decision } := by
  by_cases undecided : state.outcome trigger = none
  · rw [trigger_commit undecided]
    split <;> rfl
  · rw [commit_decided undecided]

theorem owner_commit (state : State) (trigger : Nat) (decided : Outcome)
    (callback : Option Work) (other : Nat) :
    (state.commit trigger decided callback).1.owner other = state.owner other := by
  rw [owner, commit_keeps]; rfl

theorem isStarted_commit (state : State) (trigger : Nat) (decided : Outcome)
    (callback : Option Work) (other : Nat) :
    (state.commit trigger decided callback).1.isStarted other = state.isStarted other := by
  rw [isStarted, commit_keeps]; rfl

theorem entries_commit (state : State) (trigger : Nat) (decided : Outcome)
    (callback : Option Work) :
    (state.commit trigger decided callback).1.entries = state.entries := by
  by_cases undecided : state.outcome trigger = none
  · rw [commit_undecided undecided]; rfl
  · rw [commit_decided undecided]

theorem trigger_commit_updateEntry (state : State) (number trigger : Nat)
    (change : Entry → Entry) (decided : Outcome) (callback : Option Work) (other : Nat) :
    ((state.updateEntry number change).commit trigger decided callback).1.trigger other =
      (state.commit trigger decided callback).1.trigger other := by
  by_cases undecided : state.outcome trigger = none
  · rw [trigger_commit undecided,
      trigger_commit (show (state.updateEntry number change).outcome trigger = none from undecided)]
    rfl
  · rw [commit_decided undecided,
      commit_decided (show (state.updateEntry number change).outcome trigger ≠ none from undecided)]
    rfl

theorem entry_commit (state : State) (trigger : Nat) (decided : Outcome)
    (callback : Option Work) (number : Nat) :
    (state.commit trigger decided callback).1.entry number = state.entry number := by
  rw [entry, entries_commit]; rfl

namespace Bound

theorem commits (bound : Bound state number chain) {trigger : Nat}
    (within : trigger < state.triggers.size) {decided : Outcome} (own : decided ≠ .redirect)
    (callback : Option Work) :
    Bound (state.commit trigger decided callback).1 number chain where
  armed other owned started undecided := by
    rw [owner_commit] at owned
    rw [isStarted_commit] at started
    rw [outcome_commit within] at undecided
    split at undecided
    · cases undecided
    · rw [commit_keeps]
      exact bound.armed other owned started undecided
  held other held := by
    rw [owner_commit, isStarted_commit]
    exact bound.held other held
  stops stop member := by
    obtain ⟨owned, started, taken, callback⟩ := bound.stops stop member
    rw [owner_commit, isStarted_commit, outcome_commit within]
    refine ⟨owned, started, ?_, callback⟩
    split
    · rintro ⟨⟩
    · exact taken
  settling := bound.settling
  redirected other held redirect := by
    rw [outcome_commit within] at redirect
    split at redirect
    · next same =>
      apply bound.redirected other held
      rw [same]
      cases before : state.outcome trigger with
      | none =>
        rw [before] at redirect
        exact absurd (Option.some.inj redirect) own
      | some taken => rw [before] at redirect; exact redirect
    · exact bound.redirected other held redirect
  planned := bound.planned

theorem stopped (bound : Bound state number chain) {trigger : Nat}
    (held : chain.trigger = some trigger) {callback : Work}
    (called : callback.isCallback = true) (stops : List (Nat × Work))
    (kept : ∀ stop ∈ stops, stop = (trigger, callback) ∨ stop ∈ chain.stops)
    (lookup : stops.lookup trigger = some callback) (settles : Option Work) :
    Bound (state.commit trigger .redirect settles).1 number
      { chain with status := .idle, nextRun := none, stops } := by
  obtain ⟨owned, started⟩ := bound.held trigger held
  have within := within_of_isStarted started
  have pending : stops.lookup trigger ≠ none := by rw [lookup]; rintro ⟨⟩
  refine ⟨fun other otherOwned otherStarted undecided => ?armed, fun other otherHeld => ?held,
    fun stop member => ?stops, fun _ other otherHeld => ?settling, fun other otherHeld _ => ?redirected,
    fun planned => absurd rfl planned⟩
  case armed =>
    rw [owner_commit] at otherOwned
    rw [isStarted_commit] at otherStarted
    rw [outcome_commit within] at undecided
    split at undecided
    · cases undecided
    · next different =>
      have armed := (bound.armed other otherOwned otherStarted undecided).1
      exact absurd (Option.some.inj (armed.symm.trans held)) different
  case held =>
    rw [owner_commit, isStarted_commit]
    exact bound.held other otherHeld
  case stops =>
    rw [owner_commit, isStarted_commit, outcome_commit within]
    rcases kept stop member with rfl | member
    · exact ⟨owned, started, by rw [if_pos rfl]; rintro ⟨⟩, called⟩
    · obtain ⟨stopOwned, stopStarted, taken, callback⟩ := bound.stops stop member
      refine ⟨stopOwned, stopStarted, ?_, callback⟩
      split
      · rintro ⟨⟩
      · exact taken
  case settling =>
    cases held.symm.trans otherHeld
    exact pending
  case redirected =>
    cases held.symm.trans otherHeld
    exact pending

end Bound

theorem chain_breakOff (state : State) (number : Nat) (report : Report) :
    ((state.breakOff number report).entry number).status = .idle ∧
      ((state.breakOff number report).entry number).trigger = none ∧
      ((state.breakOff number report).entry number).nextRun = none ∧
      ((state.breakOff number report).entry number).stops = (state.entry number).stops := by
  unfold State.breakOff
  rw [entry_updateEntry]
  split
  · exact ⟨rfl, rfl, rfl, rfl⟩
  · next beyond =>
    rw [state.entry_of_le (Nat.le_of_not_lt fun within => beyond ⟨rfl, within⟩)]
    exact ⟨rfl, rfl, rfl, rfl⟩

theorem entry_stopChain {trigger : Nat} (running : (state.entry number).status = .running)
    (held : (state.entry number).trigger = some trigger) (within : number < state.entries.size)
    (callback : Work) : (state.stopChain number callback).1.entry number =
      (state.entry number).stop trigger callback := by
  rw [stopChain_eq running held, (Unmoved.tell _ _ _).entry, entry_commit]
  exact (entry_updateEntry _ _ _ _).trans (if_pos ⟨rfl, within⟩)

namespace Linked

theorem neutral (linked : Linked state) (neutral : Neutral state later) : Linked later where
  tidy := neutral.tidy linked.tidy
  range trigger number owned := Nat.lt_of_lt_of_le
    (linked.range trigger number ((neutral.owner_eq trigger).symm.trans owned)) neutral.entries
  work trigger number owned := by
    have before := (neutral.owner_eq trigger).symm.trans owned
    rw [neutral.owned trigger number before]
    exact linked.work trigger number before
  redirect trigger number owned redirect := by
    have before := (neutral.owner_eq trigger).symm.trans owned
    rw [outcome, neutral.owned trigger number before] at redirect
    rw [neutral.owned trigger number before]
    exact linked.redirect trigger number before redirect
  tasks number := by
    rw [neutral.chain]
    refine (linked.tasks number).congr (fun trigger => by rw [neutral.owner_eq]) ?_ ?_ ?_
    · intro trigger owned; rw [isStarted, neutral.owned trigger number owned]; rfl
    · intro trigger owned; rw [outcome, neutral.owned trigger number owned]; rfl
    · intro trigger owned; rw [neutral.owned trigger number owned]

theorem shift (linked : Linked state) (shift : Shift state later) : Linked later where
  tidy := shift.tidy linked.tidy
  range trigger number owned := by
    rw [shift.entries]
    exact linked.range trigger number ((shift.owner trigger).symm.trans owned)
  work trigger number owned := by
    rw [shift.trigger]
    exact linked.work trigger number ((shift.owner trigger).symm.trans owned)
  redirect trigger number owned redirect := by
    rw [shift.outcome] at redirect
    rw [shift.trigger]
    exact linked.redirect trigger number ((shift.owner trigger).symm.trans owned) redirect
  tasks number := by
    rw [shift.entry]
    exact (linked.tasks number).congr (fun trigger => by rw [shift.owner])
      (fun trigger _ => shift.started trigger) (fun trigger _ => shift.outcome trigger)
      fun trigger _ => by rw [shift.trigger]

theorem updateEntry (linked : Linked state) {change : Entry → Entry}
    (inside : Local number state (state.updateEntry number change))
    (bound : Bound state number (change (state.entry number)).chain) :
    Linked (state.updateEntry number change) := by
  refine linked.local inside (fun trigger owned => linked.range trigger number owned) ?_
  refine Bound.of_triggers (?_ : Bound state number _) fun _ => rfl
  rw [entry_updateEntry]
  split
  · exact bound
  · exact linked.tasks number

theorem breakOff (linked : Linked state) (settled : Settled state number) (report : Report) :
    Linked (state.breakOff number report) :=
  linked.updateEntry (breakOff_local _ _ _) ((linked.tasks number).breaksOff settled)

theorem dropStop (linked : Linked state) {trigger : Nat}
    (released : (state.entry number).trigger ≠ some trigger) :
    Linked (state.updateEntry number fun entry => entry.dropStop trigger) := by
  apply linked.updateEntry (dropStop_local _ _ _)
  exact (linked.tasks number).drops released (fun _ member => (List.mem_filter.mp member).1)
    fun other different => (lookup_dropped _ _ _).trans (if_neg different)

theorem endChain (linked : Linked state) {trigger : Nat}
    (decided : state.outcome trigger ≠ none) : Linked (state.endChain number trigger).1 := by
  apply linked.updateEntry (endChain_local _ _ _)
  have bound := linked.tasks number
  have kept : ∀ stop ∈ ((state.entry number).dropStop trigger).stops,
      stop ∈ (state.entry number).stops := fun _ member => (List.mem_filter.mp member).1
  unfold Entry.release
  split
  · next held => exact bound.releases (bound.settled_of_held held decided) kept
  · next released =>
    exact bound.drops released kept fun other different =>
      (lookup_dropped _ _ _).trans (if_neg different)

theorem abandonChain (linked : Linked state) {trigger : Nat}
    (decided : state.outcome trigger ≠ none) (report : Report) :
    Linked (state.abandonChain number trigger report).1 := by
  unfold State.abandonChain
  dsimp only
  split
  · next held =>
    have broken := linked.breakOff ((linked.tasks number).settled_of_held held decided) report
    apply broken.dropStop
    rw [(chain_breakOff _ _ _).2.1]
    rintro ⟨⟩
  · next released =>
    refine (linked.neutral (.countError _ _ _)).dropStop fun held => released ?_
    exact ((Neutral.countError state number report).held number).symm.trans held

theorem commit (linked : Linked state) (trigger : Nat) {decided : Outcome}
    (own : decided ≠ .redirect) : Linked (state.commit trigger decided none).1 := by
  cases owned : state.owner trigger with
  | none => exact linked.neutral (.commit owned decided (by rintro _ ⟨⟩))
  | some number =>
    have inside : Local number state (state.commit trigger decided none).1 :=
      .commit owned decided fun same => absurd same own
    refine linked.local inside (fun _ _ => linked.range trigger number owned) ?_
    rw [entry_commit]
    exact (linked.tasks number).commits (Local.within_of_owner owned) own none

theorem stopChain (linked : Linked state) {trigger : Nat} {callback : Work}
    (running : (state.entry number).status = .running)
    (held : (state.entry number).trigger = some trigger)
    (called : callback.isCallback = true) :
    Linked (state.stopChain number callback).1 := by
  have bound := linked.tasks number
  obtain ⟨owned, started⟩ := bound.held trigger held
  have within := linked.range trigger number owned
  have inside := stopChain_local running held owned callback
  refine linked.local inside (fun _ _ => within) ?_
  have stopped := bound.stopped held called ((state.entry number).stop trigger callback).stops
    (fun stop member => (List.mem_cons.mp member).imp_right fun member =>
      (List.mem_filter.mp member).1)
    (by rw [lookup_stop, if_pos rfl]) (some (.settle number trigger))
  rw [entry_stopChain running held within, stopChain_eq running held]
  apply stopped.of_triggers
  intro other
  rw [(Unmoved.tell _ _ _).trigger]
  exact trigger_commit_updateEntry _ _ _ _ _ _ _

end Linked

/-! ### Arming -/

theorem Settled.unmoved (settled : Settled state number) (unmoved : Unmoved state later) :
    Settled later number := by
  intro trigger owned started
  rw [unmoved.owner] at owned
  rw [isStarted, unmoved.trigger] at started
  rw [unmoved.outcome]
  exact settled trigger owned started

namespace Spawned

variable {args : List Value} {due : DateTime} {thread : Thread}

theorem old_of_owner (spawned : Spawned state later number args due thread) {trigger task : Nat}
    (owned : state.owner trigger = some task) : later.trigger trigger = state.trigger trigger :=
  spawned.old trigger (Nat.ne_of_lt (Local.within_of_owner owned))

theorem owner_new (spawned : Spawned state later number args due thread) :
    later.owner state.triggers.size = some number := by
  obtain ⟨name, made⟩ := spawned.new
  rw [owner, made]

theorem outcome_new (spawned : Spawned state later number args due thread) :
    later.outcome state.triggers.size = none := by
  obtain ⟨name, made⟩ := spawned.new
  rw [outcome, made]; rfl

theorem thread_new (spawned : Spawned state later number args due thread) :
    (later.trigger state.triggers.size).thread = thread := by
  obtain ⟨name, made⟩ := spawned.new
  rw [made]

theorem due_new (spawned : Spawned state later number args due thread) :
    (later.trigger state.triggers.size).due = some due := by
  obtain ⟨name, made⟩ := spawned.new
  rw [made]

theorem kept (spawned : Spawned state later number args due thread)
    (bound : Bound state number chain) :
    (∀ trigger, chain.trigger = some trigger →
        later.owner trigger = some number ∧ later.isStarted trigger = true ∧
          later.outcome trigger = state.outcome trigger) ∧
      ∀ stop ∈ chain.stops, later.owner stop.1 = some number ∧
        later.isStarted stop.1 = true ∧ later.outcome stop.1 ≠ none ∧ stop.2.isCallback = true := by
  refine ⟨fun trigger held => ?_, fun stop member => ?_⟩
  · obtain ⟨owned, started⟩ := bound.held trigger held
    rw [owner, isStarted, outcome, spawned.old_of_owner owned]
    exact ⟨owned, started, rfl⟩
  · obtain ⟨owned, started, decided, called⟩ := bound.stops stop member
    rw [owner, isStarted, outcome, spawned.old_of_owner owned]
    exact ⟨owned, started, decided, called⟩

theorem bound_unstarted (spawned : Spawned state later number args due .unstarted)
    (bound : Bound state number chain) : Bound later number chain := by
  obtain ⟨held, stops⟩ := spawned.kept bound
  refine ⟨fun trigger owned started undecided => ?_,
    fun trigger same => ⟨(held trigger same).1, (held trigger same).2.1⟩, stops, bound.settling,
    fun trigger same redirect => ?_, bound.planned⟩
  · by_cases new : trigger = state.triggers.size
    · rw [isStarted_iff, new, spawned.thread_new] at started
      exact absurd rfl started
    · rw [owner, spawned.old trigger new] at owned
      rw [isStarted, spawned.old trigger new] at started
      rw [outcome, spawned.old trigger new] at undecided
      rw [spawned.old trigger new]
      exact bound.armed trigger owned started undecided
  · rw [(held trigger same).2.2] at redirect
    exact bound.redirected trigger same redirect

/-- A trigger whose thread was started becomes the one that the chain holds. -/
theorem bound_started {stack : List Frame}
    (spawned : Spawned state later number args due (.suspended stack))
    (bound : Bound state number chain) (settled : Settled state number)
    (running : chain.status = .running) :
    Bound later number
      { chain with trigger := some state.triggers.size, nextRun := some due } := by
  obtain ⟨-, stops⟩ := spawned.kept bound
  refine ⟨fun trigger owned started undecided => ?armed, fun trigger same => ?held, stops,
    fun idle => ?settling, fun trigger same redirect => ?redirected,
    fun _ => ⟨running, _, rfl, ?unstopped⟩⟩
  case armed =>
    by_cases new : trigger = state.triggers.size
    · rw [new, spawned.due_new]
      exact ⟨rfl, running, rfl⟩
    · rw [owner, spawned.old trigger new] at owned
      rw [isStarted, spawned.old trigger new] at started
      rw [outcome, spawned.old trigger new] at undecided
      exact absurd undecided (settled trigger owned started)
  case held =>
    cases same
    refine ⟨spawned.owner_new, isStarted_iff.mpr ?_⟩
    rw [spawned.thread_new]
    rintro ⟨⟩
  case settling =>
    rw [running] at idle; cases idle
  case redirected =>
    cases same
    rw [spawned.outcome_new] at redirect; cases redirect
  case unstopped =>
    cases pending : chain.stops.lookup state.triggers.size with
    | none => rfl
    | some callback =>
      have owned := (bound.stops _ (mem_of_lookup pending)).1
      exact absurd (Local.within_of_owner owned) (Nat.lt_irrefl _)

end Spawned

/-- A chain that begins or goes on, without an undecided trigger, is armed or breaks off. -/
theorem Linked.arming (linked : Linked state) {args : List Value}
    {result : Except Failure (Option Report)} (settled : Settled state number)
    (within : number < state.entries.size)
    (running : (state.entry number).status = .running)
    (arming : Arming state number args later result) : Linked later := by
  cases arming with
  | blind fault blind => exact linked
  | left unmoved leaves => exact linked.neutral unmoved.neutral
  | unplanned report unmoved =>
    exact (linked.neutral unmoved.neutral).breakOff (settled.unmoved unmoved) report
  | @unstarted planned spawned due report unmoved made =>
    have before := linked.neutral unmoved.neutral
    have unarmed : Linked spawned := by
      refine before.local (made.local (.inl rfl)) (fun _ _ => unmoved.entries ▸ within) ?_
      rw [made.entry]
      exact made.bound_unstarted (before.tasks number)
    refine unarmed.breakOff (fun trigger owned started => ?_) report
    by_cases new : trigger = planned.triggers.size
    · rw [isStarted_iff, new, made.thread_new] at started
      exact absurd rfl started
    · rw [owner, made.old trigger new] at owned
      rw [isStarted, made.old trigger new] at started
      rw [outcome, made.old trigger new]
      exact settled.unmoved unmoved trigger owned started
  | @armed planned spawned later due unmoved made armed =>
    have before := linked.neutral unmoved.neutral
    have size : planned.triggers.size = state.triggers.size := by rw [unmoved.triggers]
    have inside : Local number planned (spawned.updateEntry number fun entry =>
        entry.arm state.triggers.size due) :=
      (made.local (.inr (by rw [size]))).trans (arm_local _ _ _ _)
    have plannedRunning : (planned.entry number).status = .running := by
      rw [unmoved.entry]; exact running
    have bound := made.bound_started (before.tasks number) (settled.unmoved unmoved)
      plannedRunning
    refine Linked.neutral (before.local inside (fun _ _ => unmoved.entries ▸ within) ?_)
      armed.neutral
    rw [entry_updateEntry_self (by rw [made.entries, unmoved.entries]; exact within),
      made.entry]
    rw [size] at bound
    exact bound.of_triggers fun _ => rfl

end State

end Timetable
