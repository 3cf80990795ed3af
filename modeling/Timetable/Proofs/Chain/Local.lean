import Timetable.Proofs.Machine.Stack

/-! Changes within one chain.

Whatever becomes of the chain of a task touches that task and its triggers only. Triggers that are
made on the way belong to the task, and no decision is taken back.
-/

set_option autoImplicit false

namespace Timetable

/-- `entry.Becomes fresh result later`: what arming makes of a task. Where it raises, the task is as it
was; where it reports an error, the chain is broken off; and else the task holds the fresh trigger. -/
inductive Entry.Becomes (entry : Entry) (fresh : Nat) :
    Except Failure (Option Report) → Entry → Prop where
  | raised (failure : Failure) : entry.Becomes fresh (.error failure) entry
  | brokenOff (report : Report) :
      entry.Becomes fresh (.ok (some report)) (entry.breakOff report.message)
  | armed (due : DateTime) : entry.Becomes fresh (.ok none) (entry.arm fresh due)

namespace State

structure Local (number : Nat) (state later : State) : Prop where
  setting : later.setting = state.setting
  clock : later.clock = state.clock
  active : later.active = state.active
  main : later.main = state.main
  registered : later.registered = state.registered
  labels : later.labels = state.labels
  size : later.entries.size = state.entries.size
  others : ∀ other, other ≠ number → later.entry other = state.entry other
  name : (later.entry number).name = (state.entry number).name
  rule : (later.entry number).rule = (state.entry number).rule
  work : (later.entry number).work = (state.entry number).work
  running : (later.entry number).isRunning = true →
    (state.entry number).isRunning = true ∨ number ∈ state.registered
  triggers : state.triggers.size ≤ later.triggers.size
  kept : ∀ trigger < state.triggers.size, later.trigger trigger =
    { state.trigger trigger with decision := (later.trigger trigger).decision }
  foreign : ∀ trigger < state.triggers.size, state.owner trigger ≠ some number →
    later.trigger trigger = state.trigger trigger
  decided : ∀ trigger outcome, state.outcome trigger = some outcome →
    (later.trigger trigger).decision = (state.trigger trigger).decision
  redirected : ∀ trigger, later.owner trigger = some number →
    later.outcome trigger = some .redirect →
    (later.trigger trigger).decision.callback = some (.settle number trigger) ∨
      (later.trigger trigger).decision = (state.trigger trigger).decision
  born : ∀ trigger, state.triggers.size ≤ trigger → later.trigger trigger = default ∨
    later.owner trigger = some number ∧
      (later.trigger trigger).work = .fire number trigger ∧
      ((later.trigger trigger).thread = .unstarted ∨
        (later.trigger trigger).thread = .suspended [.countdown trigger])

variable {number : Nat} {state middle later : State}

namespace Local

theorem refl (number : Nat) (state : State) : Local number state state where
  setting := rfl
  clock := rfl
  active := rfl
  main := rfl
  registered := rfl
  labels := rfl
  size := rfl
  others _ _ := rfl
  name := rfl
  rule := rfl
  work := rfl
  running := .inl
  triggers := Nat.le_refl _
  kept _ _ := rfl
  foreign _ _ _ := rfl
  decided _ _ _ := rfl
  redirected _ _ _ := .inr rfl
  born _ beyond := .inl (state.trigger_of_le beyond)

theorem owner_eq (inside : Local number state later) {trigger : Nat}
    (within : trigger < state.triggers.size) : later.owner trigger = state.owner trigger := by
  rw [owner, inside.kept trigger within]; rfl

theorem within_of_owner {trigger : Nat} {task : Nat} (owned : state.owner trigger = some task) :
    trigger < state.triggers.size := by
  apply Nat.lt_of_not_le
  intro beyond
  rw [state.owner_of_le beyond] at owned
  cases owned

theorem within_of_outcome {trigger : Nat} {outcome : Outcome}
    (decided : state.outcome trigger = some outcome) : trigger < state.triggers.size := by
  apply Nat.lt_of_not_le
  intro beyond
  rw [State.outcome, state.trigger_of_le beyond] at decided
  cases decided

theorem trans (first : Local number state middle) (second : Local number middle later) :
    Local number state later where
  setting := second.setting.trans first.setting
  clock := second.clock.trans first.clock
  active := second.active.trans first.active
  main := second.main.trans first.main
  registered := second.registered.trans first.registered
  labels := second.labels.trans first.labels
  size := second.size.trans first.size
  others other different := (second.others other different).trans (first.others other different)
  name := second.name.trans first.name
  rule := second.rule.trans first.rule
  work := second.work.trans first.work
  running running := by
    rcases second.running running with running | member
    · exact first.running running
    · exact .inr (first.registered ▸ member)
  triggers := Nat.le_trans first.triggers second.triggers
  kept trigger within := by
    rw [second.kept trigger (Nat.lt_of_lt_of_le within first.triggers), first.kept trigger within]
  foreign trigger within foreign := by
    have owner := first.owner_eq within
    exact (second.foreign trigger (Nat.lt_of_lt_of_le within first.triggers)
      (owner ▸ foreign)).trans (first.foreign trigger within foreign)
  decided trigger outcome decided := by
    have same := first.decided trigger outcome decided
    refine (second.decided trigger outcome ?_).trans same
    rw [State.outcome, same]; exact decided
  redirected trigger owned redirect := by
    rcases second.redirected trigger owned redirect with settles | same
    · exact .inl settles
    · have within : trigger < middle.triggers.size :=
        within_of_outcome (show middle.outcome trigger = some .redirect by
          rw [State.outcome, ← same]; exact redirect)
      rcases first.redirected trigger ((second.owner_eq within).symm.trans owned)
        (by rw [State.outcome, ← same]; exact redirect) with settles | unchanged
      · exact .inl (by rw [same]; exact settles)
      · exact .inr (same.trans unchanged)
  born trigger beyond := by
    by_cases within : trigger < middle.triggers.size
    · rcases first.born trigger beyond with absent | ⟨owned, work, thread⟩
      · rw [second.foreign trigger within (by rw [owner, absent]; rintro ⟨⟩)]
        exact .inl absent
      · rw [second.owner_eq within, second.kept trigger within]
        exact .inr ⟨owned, work, thread⟩
    · exact second.born trigger (Nat.le_of_not_lt within)

end Local

theorem Unmoved.local (unmoved : Unmoved state later) (number : Nat) : Local number state later where
  setting := unmoved.setting
  clock := unmoved.clock
  active := unmoved.active
  main := unmoved.main
  registered := unmoved.registered
  labels := unmoved.labels
  size := by rw [unmoved.entries]
  others other _ := unmoved.entry other
  name := by rw [unmoved.entry]
  rule := by rw [unmoved.entry]
  work := by rw [unmoved.entry]
  running := by rw [unmoved.entry]; exact .inl
  triggers := Nat.le_of_eq (by rw [unmoved.triggers])
  kept trigger _ := by rw [unmoved.trigger]
  foreign trigger _ _ := unmoved.trigger trigger
  decided trigger _ _ := by rw [unmoved.trigger]
  redirected trigger _ _ := .inr (by rw [unmoved.trigger])
  born trigger beyond := .inl ((unmoved.trigger trigger).trans (state.trigger_of_le beyond))

/-- A change of one task that keeps its name, its rule and its work. -/
theorem Local.updateEntry (state : State) (number : Nat) (change : Entry → Entry)
    (name : ∀ entry, (change entry).name = entry.name)
    (rule : ∀ entry, (change entry).rule = entry.rule)
    (work : ∀ entry, (change entry).work = entry.work)
    (running : (change (state.entry number)).isRunning = true →
      (state.entry number).isRunning = true ∨ number ∈ state.registered) :
    Local number state (state.updateEntry number change) := by
  have changed : (state.updateEntry number change).entry number = change (state.entry number) ∨
      (state.updateEntry number change).entry number = state.entry number := by
    rw [entry_updateEntry]; split
    · exact .inl rfl
    · exact .inr rfl
  refine { Local.refl number state with
    size := Store.size_update .., others := ?others, name := ?name, rule := ?rule, work := ?work,
    running := ?running }
  case others =>
    intro other different
    rw [entry_updateEntry, if_neg fun same => different same.1]
  case name =>
    rcases changed with eq | eq
    · rw [eq, name]
    · rw [eq]
  case rule =>
    rcases changed with eq | eq
    · rw [eq, rule]
    · rw [eq]
  case work =>
    rcases changed with eq | eq
    · rw [eq, work]
    · rw [eq]
  case running =>
    rcases changed with eq | eq
    · rw [eq]; exact running
    · rw [eq]; exact .inl

/-- The decision of a trigger of the task; a trigger that is redirected is to settle. -/
theorem Local.commit {trigger : Nat} (owned : state.owner trigger = some number)
    (decided : Outcome) {callback : Option Work}
    (settles : decided = .redirect → callback = some (.settle number trigger)) :
    Local number state (state.commit trigger decided callback).1 := by
  by_cases undecided : state.outcome trigger = none
  · have changed := trigger_commit undecided decided callback
    rw [commit_undecided undecided] at changed ⊢
    refine { Local.refl number state with
      triggers := Nat.le_of_eq (Store.size_update ..).symm
      kept := ?kept, foreign := ?foreign, decided := ?already, redirected := ?redirected, born := ?born }
    case kept =>
      intro other _
      rw [changed]; split <;> rfl
    case foreign =>
      intro other _ foreign
      refine (changed other).trans (if_neg ?_)
      rintro ⟨rfl, -⟩
      exact foreign owned
    case already =>
      intro other outcome already
      rw [changed, if_neg]
      rintro ⟨rfl, -⟩
      rw [undecided] at already; cases already
    case redirected =>
      intro other _ redirect
      rw [State.outcome, changed] at redirect
      rw [changed]
      split at redirect
      · next same =>
        rw [if_pos same, same.1]
        exact .inl (settles (Option.some.inj redirect))
      · next different => rw [if_neg different]; exact .inr rfl
    case born =>
      intro other beyond
      rw [changed, if_neg]
      · exact .inl (state.trigger_of_le beyond)
      · rintro ⟨rfl, within⟩
        exact absurd within (Nat.not_lt_of_le beyond)
  · rw [commit_decided undecided]; exact .refl _ _

theorem Local.tidy (inside : Local number state later) (tidy : state.Tidy) : later.Tidy := by
  have name : ∀ other, (later.entry other).name = (state.entry other).name := by
    intro other
    by_cases same : other = number
    · rw [same]; exact inside.name
    · rw [inside.others other same]
  constructor
  · intro other
    by_cases same : other = number
    · rw [same, inside.work]; exact tidy.works number
    · rw [inside.others other same]; exact tidy.works other
  · intro trigger free
    by_cases within : trigger < state.triggers.size
    · have before := (inside.owner_eq within).symm.trans free
      rw [inside.foreign trigger within (by rw [before]; rintro ⟨⟩)]
      exact tidy.free trigger before
    · rcases inside.born trigger (Nat.le_of_not_lt within) with absent | ⟨owned, -⟩
      · rw [absent]; exact ⟨rfl, (by rintro _ ⟨⟩)⟩
      · rw [free] at owned; cases owned
  · intro label member
    obtain ⟨within, free⟩ := tidy.labels label (inside.labels ▸ member)
    exact ⟨Nat.lt_of_lt_of_le within inside.triggers, (inside.owner_eq within).trans free⟩
  · rw [inside.registered, inside.size]; exact tidy.range
  · intro first firstMember second secondMember same
    rw [inside.registered] at firstMember secondMember
    rw [name, name] at same
    exact tidy.unique first firstMember second secondMember same
  · intro other running
    rw [inside.registered]
    by_cases same : other = number
    · subst same
      rcases inside.running running with before | member
      · exact tidy.running other before
      · exact member
    · rw [inside.others other same] at running
      exact tidy.running other running

/-! ### Arming -/

structure Spawned (state later : State) (number : Nat) (args : List Value) (due : DateTime)
    (thread : Thread) : Prop where
  setting : later.setting = state.setting
  clock : later.clock = state.clock
  active : later.active = state.active
  main : later.main = state.main
  entries : later.entries = state.entries
  labels : later.labels = state.labels
  registered : later.registered = state.registered
  size : later.triggers.size = state.triggers.size + 1
  new : ∃ name, later.trigger state.triggers.size = {
    due := some due, work := .fire number state.triggers.size, args, errors := .entry number
    name, decision := .undecided, begun := true, thread }
  old : ∀ trigger, trigger ≠ state.triggers.size → later.trigger trigger = state.trigger trigger

/-- What arming a task comes to: a clock that shows no time, a planner that asks to leave, a chain
that breaks off, or a trigger. -/
inductive Arming (state : State) (number : Nat) (args : List Value) :
    State → Except Failure (Option Report) → Prop where
  | blind (fault : Fault) : state.now = .error fault →
      Arming state number args state (.error fault.failure)
  | left {failure : Failure} {later : State} : Unmoved state later → failure.leaves = true →
      (∃ plans, state.setting.plans = some plans ∧ .raise failure ∈ plans) →
      Arming state number args later (.error failure)
  | unplanned {later : State} (report : Report) : Unmoved state later →
      Arming state number args (later.breakOff number report) (.ok (some report))
  | unstarted {planned spawned : State} {due : DateTime} (report : Report) :
      Unmoved state planned → Spawned planned spawned number args due .unstarted →
      Arming state number args (spawned.breakOff number report) (.ok (some report))
  | armed {planned spawned later : State} {due : DateTime} : Unmoved state planned →
      Spawned planned spawned number args due (.suspended [.countdown state.triggers.size]) →
      Unmoved (spawned.updateEntry number fun entry => entry.arm state.triggers.size due) later →
      Arming state number args later (.ok none)

theorem startThread_of_failing {failing : Nat} (fails : state.failingStarts = failing + 1)
    (trigger : Nat) :
    state.startThread trigger =
      ({ state.updateTrigger trigger fun trigger => { trigger with begun := true } with
        failingStarts := failing }, .error ⟨"RuntimeError", "can't start new thread"⟩) := by
  have fails : (state.updateTrigger trigger fun trigger =>
    { trigger with begun := true }).failingStarts = failing + 1 := fails
  unfold startThread
  dsimp only
  rw [fails]

theorem startThread_of_unstarted {trigger : Nat} (spared : state.failingStarts = 0)
    (fresh : (state.trigger trigger).thread = .unstarted) :
    state.startThread trigger =
      ({ (state.updateTrigger trigger fun trigger => { trigger with begun := true }).updateTrigger
          trigger fun started => { started with thread := .suspended [.countdown trigger] } with
        ready := state.ready ++ [trigger] }, .ok ()) := by
  have spared : (state.updateTrigger trigger fun trigger =>
    { trigger with begun := true }).failingStarts = 0 := spared
  have fresh : ((state.updateTrigger trigger fun trigger =>
      { trigger with begun := true }).trigger trigger).thread = .unstarted := by
    rw [trigger_updateTrigger]
    split <;> exact fresh
  unfold startThread
  dsimp only
  rw [spared, fresh]
  rfl

theorem makeTrigger_spawned (state : State) (number : Nat) (args : List Value) (due : DateTime)
    (name : String) :
    Spawned state ((state.makeTrigger (some due) (.fire number state.triggers.size) args
        (.entry number) name).updateTrigger state.triggers.size fun trigger =>
          { trigger with begun := true }) number args due .unstarted := by
  obtain ⟨given, made⟩ := state.trigger_makeTrigger (some due)
    (.fire number state.triggers.size) args (.entry number) name
  have size : (state.makeTrigger (some due) (.fire number state.triggers.size) args
      (.entry number) name).triggers.size = state.triggers.size + 1 := Store.size_add ..
  refine ⟨rfl, rfl, rfl, rfl, rfl, rfl, rfl, (Store.size_update ..).trans size, ⟨given, ?_⟩,
    fun other different => ?_⟩
  · rw [trigger_updateTrigger, made, if_pos ⟨rfl, by omega⟩, if_pos rfl]
  · rw [trigger_updateTrigger, made, if_neg fun both => different both.1, if_neg different]

theorem Spawned.start {spawned : State} {number : Nat} {args : List Value} {due : DateTime}
    (made : Spawned state spawned number args due .unstarted) (ready : List Nat) :
    Spawned state { spawned.updateTrigger state.triggers.size fun started =>
        { started with thread := .suspended [.countdown state.triggers.size] } with ready }
      number args due (.suspended [.countdown state.triggers.size]) := by
  obtain ⟨name, new⟩ := made.new
  have size := made.size
  refine ⟨made.setting, made.clock, made.active, made.main, made.entries, made.labels,
    made.registered, (Store.size_update ..).trans size, ⟨name, ?_⟩, fun other different => ?_⟩
  · apply (trigger_updateTrigger ..).trans
    rw [if_pos ⟨rfl, by omega⟩, new]
  · apply (trigger_updateTrigger ..).trans
    rw [if_neg fun both => different both.1]
    exact made.old other different

/-- A trigger is made for a task and its start is asked for; no start of its thread came before. -/
theorem startThread_spawned (state : State) (number : Nat) (args : List Value) (due : DateTime)
    (name : String) :
    ∃ spawned result, (state.makeTrigger (some due) (.fire number state.triggers.size) args
        (.entry number) name).startThread state.triggers.size = (spawned, result) ∧
      (result = .ok () ∧ Spawned state spawned number args due
          (.suspended [.countdown state.triggers.size]) ∨
        ∃ failure, result = .error failure ∧ state.failingStarts ≠ 0 ∧
          Spawned state spawned number args due .unstarted) := by
  obtain ⟨given, made⟩ := state.trigger_makeTrigger (some due)
    (.fire number state.triggers.size) args (.entry number) name
  have spawned := state.makeTrigger_spawned number args due name
  have failing : (state.makeTrigger (some due) (.fire number state.triggers.size) args
    (.entry number) name).failingStarts = state.failingStarts := rfl
  generalize state.makeTrigger (some due) (.fire number state.triggers.size) args
    (.entry number) name = fresh at made spawned failing ⊢
  cases starts : fresh.failingStarts with
  | succ more =>
    have fails : state.failingStarts ≠ 0 := by rw [← failing, starts]; exact Nat.succ_ne_zero more
    refine ⟨_, _, startThread_of_failing starts _, .inr ⟨_, rfl, fails, ?_⟩⟩
    exact ⟨spawned.setting, spawned.clock, spawned.active, spawned.main, spawned.entries,
      spawned.labels, spawned.registered, spawned.size, spawned.new, spawned.old⟩
  | zero =>
    have unstarted : (fresh.trigger state.triggers.size).thread = .unstarted := by
      rw [made, if_pos rfl]
    exact ⟨_, _, startThread_of_unstarted starts unstarted, .inl ⟨rfl, spawned.start _⟩⟩

theorem armFor_arming {planned : State} (unmoved : Unmoved state planned) (number : Nat)
    (args : List Value) (due : DateTime) :
    Arming state number args (planned.armFor number args due).1
      (.ok (planned.armFor number args due).2) := by
  have size : planned.triggers.size = state.triggers.size := by rw [unmoved.triggers]
  obtain ⟨spawned, result, starts, started⟩ :=
    planned.startThread_spawned number args due (planned.entry number).name
  unfold armFor
  dsimp only
  rw [starts]
  rcases started with ⟨rfl, spawned⟩ | ⟨failure, rfl, -, spawned⟩
  · exact .armed unmoved (size ▸ spawned) (size ▸ .tell _ _ _)
  · exact .unstarted _ unmoved spawned

theorem planned?_mild {after : DateTime} {step : Plan} {failure : Failure}
    (failed : planned? after step = .error failure) :
    failure.leaves = false ∨ step = .raise failure := by
  unfold planned? at failed
  split at failed
  · split at failed
    · cases failed; exact .inl (Fault.failure_leaves _)
    · cases failed
  · cases failed
  · cases failed
  · cases failed; exact .inr rfl

theorem plan_unmoved (state : State) (rule : Rule) (after : DateTime) :
    Unmoved state (state.plan rule after).1 := by
  unfold plan
  split
  · exact .refl _
  · exact ⟨rfl, rfl, rfl, rfl, rfl, rfl, rfl, rfl⟩

/-- Nothing but a script of the planner asks to leave where a run is planned. -/
theorem plan_leaves (state : State) (rule : Rule) (after : DateTime) {failure : Failure}
    (failed : (state.plan rule after).2 = .error failure) (leaves : failure.leaves = true) :
    ∃ plans, state.setting.plans = some plans ∧ .raise failure ∈ plans := by
  unfold plan at failed
  split at failed
  · cases found : rule.nextRun after with
    | ok run => rw [found] at failed; cases failed
    | error fault =>
      rw [found] at failed
      cases failed
      rw [Fault.failure_leaves] at leaves; cases leaves
  · next plans scripted =>
    rcases planned?_mild failed with mild | raised
    · rw [leaves] at mild; cases mild
    · refine ⟨plans, scripted, ?_⟩
      cases found : plans[min state.planned (plans.length - 1)]? with
      | none => rw [found] at raised; cases raised
      | some step =>
        rw [found] at raised
        exact raised ▸ List.mem_of_getElem? found

theorem arm_arming (state : State) (number : Nat) (args : List Value)
    (after : Option DateTime) :
    Arming state number args (state.arm number args after).1
      (state.arm number args after).2 := by
  unfold arm
  split
  · next fault blind => exact .blind fault blind
  · next now _ =>
    dsimp only
    cases planFrom now after with
    | error fault =>
      dsimp only
      rw [Fault.failure_leaves, if_neg (by rintro ⟨⟩)]
      exact .unplanned _ (.refl _)
    | ok time =>
      have unmoved := state.plan_unmoved (state.entry number).rule time
      have scripted := @plan_leaves state (state.entry number).rule time
      dsimp only
      generalize state.plan (state.entry number).rule time = planning at unmoved scripted
      obtain ⟨planned, run⟩ := planning
      cases run with
      | error failure =>
        dsimp only
        split
        · next leaves => exact .left unmoved leaves (scripted rfl leaves)
        · exact .unplanned _ unmoved
      | ok found =>
        cases found with
        | none => exact .unplanned _ unmoved
        | some due => exact armFor_arming unmoved number args due

/-! ### The changes of a chain -/

theorem Spawned.entry {args : List Value} {due : DateTime} {thread : Thread}
    (spawned : Spawned state later number args due thread) (task : Nat) :
    later.entry task = state.entry task := by
  rw [State.entry, spawned.entries]; rfl

theorem Spawned.local {args : List Value} {due : DateTime} {thread : Thread}
    (spawned : Spawned state later number args due thread)
    (new : thread = .unstarted ∨ thread = .suspended [.countdown state.triggers.size]) :
    Local number state later := by
  obtain ⟨name, made⟩ := spawned.new
  have entry := spawned.entry
  have old : ∀ trigger < state.triggers.size, later.trigger trigger = state.trigger trigger :=
    fun trigger within => spawned.old trigger (Nat.ne_of_lt within)
  refine ⟨spawned.setting, spawned.clock, spawned.active, spawned.main, spawned.registered,
    spawned.labels, by rw [spawned.entries], fun other _ => entry other, by rw [entry],
    by rw [entry], by rw [entry], by rw [entry]; exact .inl, by rw [spawned.size]; omega,
    fun trigger within => by rw [old trigger within],
    fun trigger within _ => old trigger within,
    fun trigger outcome decided => by rw [old trigger (Local.within_of_outcome decided)], ?_, ?_⟩
  · intro trigger _ redirect
    by_cases same : trigger = state.triggers.size
    · rw [State.outcome, same, made] at redirect; cases redirect
    · exact .inr (by rw [spawned.old trigger same])
  · intro trigger beyond
    by_cases same : trigger = state.triggers.size
    · subst same
      rw [owner, made]
      exact .inr ⟨rfl, rfl, new⟩
    · exact .inl ((spawned.old trigger same).trans (state.trigger_of_le beyond))

theorem breakOff_local (state : State) (number : Nat) (report : Report) :
    Local number state (state.breakOff number report) :=
  .updateEntry state number _ (fun _ => rfl) (fun _ => rfl) (fun _ => rfl) (by rintro ⟨⟩)

theorem countError_local (state : State) (number : Nat) (report : Report) :
    Local number state (state.countError number report) :=
  .updateEntry state number _ (fun _ => rfl) (fun _ => rfl) (fun _ => rfl) .inl

theorem arm_local (state : State) (number trigger : Nat) (due : DateTime) :
    Local number state (state.updateEntry number fun entry => entry.arm trigger due) :=
  .updateEntry state number _ (fun _ => rfl) (fun _ => rfl) (fun _ => rfl) .inl

theorem begin_local (mode : Mode) (member : number ∈ state.registered) :
    Local number state (state.updateEntry number fun entry => entry.begin mode) :=
  .updateEntry state number _ (fun _ => rfl) (fun _ => rfl) (fun _ => rfl) fun _ => .inr member

theorem entry_begin (within : number < state.entries.size) (mode : Mode) :
    (state.updateEntry number fun entry => entry.begin mode).entry number =
      (state.entry number).begin mode :=
  entry_updateEntry_self within _

theorem Arming.local {args : List Value} {result : Except Failure (Option Report)}
    (arming : Arming state number args later result) : Local number state later := by
  cases arming with
  | blind fault blind => exact .refl _ _
  | left unmoved leaves => exact unmoved.local number
  | unplanned report unmoved => exact (unmoved.local number).trans (breakOff_local _ _ _)
  | unstarted report unmoved spawned =>
    exact ((unmoved.local number).trans (spawned.local (.inl rfl))).trans (breakOff_local _ _ _)
  | armed planned spawned armed =>
    have size := congrArg Store.size planned.triggers
    have made := spawned.local (.inr (by rw [size]))
    exact (((planned.local number).trans made).trans (arm_local _ _ _ _)).trans
      (armed.local number)

theorem Arming.becomes {args : List Value} {result : Except Failure (Option Report)}
    (within : number < state.entries.size) (arming : Arming state number args later result) :
    (state.entry number).Becomes state.triggers.size result (later.entry number) := by
  have broken : ∀ {middle : State} (report : Report), middle.entries = state.entries →
      (state.entry number).Becomes state.triggers.size (.ok (some report))
        ((middle.breakOff number report).entry number) := by
    intro middle report entries
    have same : middle.entry number = state.entry number := by rw [entry, entries]; rfl
    rw [breakOff, entry_updateEntry_self (entries ▸ within), same]
    exact .brokenOff report
  cases arming with
  | blind fault => exact .raised fault.failure
  | left unmoved => exact unmoved.entry number ▸ .raised _
  | unplanned report unmoved => exact broken report unmoved.entries
  | unstarted report unmoved made => exact broken report (made.entries.trans unmoved.entries)
  | @armed planned spawned _ due unmoved made armed =>
    have entries := made.entries.trans unmoved.entries
    rw [armed.entry, entry_updateEntry_self (entries ▸ within), made.entry, unmoved.entry]
    exact .armed due

def begun (number : Nat) : State × Except Failure (Option Report) → State × Move
  | (armed, .error failure) => (armed, .fail failure)
  | (armed, .ok report) =>
    (armed, .go (reportFrames report ++ [.give (.bool (armed.entry number).isRunning)]))

theorem startChain_begun (idle : (state.entry number).isRunning = false) (mode : Mode)
    (args : List Value) : state.startChain number mode args =
      begun number
        ((state.updateEntry number fun entry => entry.begin mode).arm number args none) :=
  if_neg (by rw [idle]; rintro ⟨⟩)

theorem startChain_begins (mode : Mode) (args : List Value)
    (idle : (state.entry number).isRunning = false) :
    ∃ later result,
      Arming (state.updateEntry number fun entry => entry.begin mode) number args later result ∧
        state.startChain number mode args = begun number (later, result) :=
  ⟨_, _, arm_arming _ number args none, startChain_begun idle mode args⟩

theorem startChain_arming (mode : Mode) (args : List Value)
    (idle : (state.entry number).isRunning = false) :
    ∃ result, Arming (state.updateEntry number fun entry => entry.begin mode) number args
      (state.startChain number mode args).1 result := by
  obtain ⟨later, result, arming, started⟩ := startChain_begins mode args idle
  rw [started]
  cases result <;> exact ⟨_, arming⟩

theorem begun_fst (number : Nat) (armed : State × Except Failure (Option Report)) :
    (begun number armed).1 = armed.1 := by
  obtain ⟨later, failure | report⟩ := armed <;> rfl

theorem startChain_becomes (within : number < state.entries.size)
    (idle : (state.entry number).isRunning = false) (mode : Mode) (args : List Value) :
    ∃ later result, state.startChain number mode args = begun number (later, result) ∧
      ((state.entry number).begin mode).Becomes state.triggers.size result
        (later.entry number) := by
  obtain ⟨later, result, arming, started⟩ := startChain_begins mode args idle
  have becomes := arming.becomes (Nat.lt_of_lt_of_eq within (Store.size_update ..).symm)
  rw [entry_begin within] at becomes
  exact ⟨later, result, started, becomes⟩

theorem startChain_local (mode : Mode) (args : List Value) (member : number ∈ state.registered)
    (idle : (state.entry number).isRunning = false) :
    Local number state (state.startChain number mode args).1 := by
  obtain ⟨_, arming⟩ := startChain_arming mode args idle
  exact (begin_local _ member).trans arming.local

theorem stopChain_eq {trigger : Nat} (running : (state.entry number).status = .running)
    (held : (state.entry number).trigger = some trigger) (callback : Work) :
    state.stopChain number callback =
      ((((state.updateEntry number fun entry => entry.stop trigger callback).commit trigger
        .redirect (some (.settle number trigger))).1.tell .info
          ("Stopping task " ++ (state.entry number).name)), true) := by
  simp only [stopChain, running, held]

theorem stopChain_local {trigger : Nat} (running : (state.entry number).status = .running)
    (held : (state.entry number).trigger = some trigger)
    (owned : state.owner trigger = some number) (callback : Work) :
    Local number state (state.stopChain number callback).1 := by
  rw [stopChain_eq running held]
  have stopped : Local number state
      (state.updateEntry number fun entry => entry.stop trigger callback) :=
    .updateEntry state number _ (fun _ => rfl) (fun _ => rfl) (fun _ => rfl) (by rintro ⟨⟩)
  have committed : Local number (state.updateEntry number fun entry => entry.stop trigger callback)
      ((state.updateEntry number fun entry => entry.stop trigger callback).commit trigger .redirect
        (some (.settle number trigger))).1 :=
    .commit (show (state.updateEntry number _).owner trigger = some number from owned) .redirect
      fun _ => rfl
  exact (stopped.trans committed).trans ((Unmoved.tell _ _ _).local number)

theorem dropStop_local (state : State) (number trigger : Nat) :
    Local number state (state.updateEntry number fun entry => entry.dropStop trigger) :=
  .updateEntry state number _ (fun _ => rfl) (fun _ => rfl) (fun _ => rfl) .inl

theorem endChain_local (state : State) (number trigger : Nat) :
    Local number state (state.endChain number trigger).1 := by
  refine .updateEntry state number _ ?name ?rule ?work ?running
  case name =>
    intro entry; unfold Entry.release; split <;> rfl
  case rule =>
    intro entry; unfold Entry.release; split <;> rfl
  case work =>
    intro entry; unfold Entry.release; split <;> rfl
  case running =>
    unfold Entry.release
    split
    · exact .inl
    · exact .inl

theorem abandonChain_local (state : State) (number trigger : Nat) (report : Report) :
    Local number state (state.abandonChain number trigger report).1 := by
  have told : Local number state (if (state.entry number).trigger = some trigger then
      state.breakOff number report else state.countError number report) := by
    split
    · exact breakOff_local _ _ _
    · exact countError_local _ _ _
  exact told.trans (dropStop_local _ _ _)

def Noted (number : Nat) (state later : State) : Prop :=
  later = state ∨ ∃ report, later = state.countError number report

theorem Noted.local (noted : Noted number state later) : Local number state later := by
  rcases noted with rfl | ⟨report, rfl⟩
  · exact .refl _ _
  · exact countError_local _ _ _

theorem Noted.neutral (noted : Noted number state later) : Neutral state later := by
  rcases noted with rfl | ⟨report, rfl⟩
  · exact .refl _
  · exact .countError _ _ _

inductive Ending (state : State) (number trigger : Nat) (args : List Value) (mode : Mode)
    (outcome : Signal) : State → Move → Prop where
  | goesOn {noted later : State} {result : Except Failure (Option Report)} {move : Move} :
      Noted number state noted → (state.entry number).isRunning = true →
      (state.entry number).trigger = some trigger →
      Arming noted number (nextArgs mode args outcome) later result →
      (∀ failure, result = .error failure → move = .fail failure) →
      (∀ report, result = .ok report → ∃ reports : List Report, move = .go (reports.map .report)) →
      Ending state number trigger args mode outcome later move
  | finished {noted : State} (reports : List Report) : Noted number state noted →
      ¬ ((state.entry number).isRunning = true ∧ (state.entry number).trigger = some trigger) →
      Ending state number trigger args mode outcome (noted.endChain number trigger).1
        (.go (reports.map .report ++ callbackFrames number (noted.endChain number trigger).2
          (nextArgs mode args outcome)))

theorem reportFrames_eq (report : Option Report) :
    reportFrames report = report.toList.map .report := by
  cases report <;> rfl

def goOn (state : State) (number trigger : Nat) (next : List Value) (due : Option DateTime)
    (failed : Option Report) : State × Move :=
  if (state.entry number).isRunning ∧ (state.entry number).trigger = some trigger then
    match state.arm number next due with
    | (state, .error failure) => (state, .fail failure)
    | (state, .ok unarmed) => (state, .go (reportFrames failed ++ reportFrames unarmed))
  else
    let (state, callback) := state.endChain number trigger
    (state, .go (reportFrames failed ++ callbackFrames number callback next))

theorem endRun_eq (state : State) (number trigger : Nat) (args : List Value) (mode : Mode)
    (work : Work) (outcome : Signal) :
    ∃ failed noted, Noted number state noted ∧
      state.endRun number trigger args mode work outcome =
        noted.goOn number trigger (nextArgs mode args outcome) (state.trigger trigger).due
          failed := by
  cases outcome with
  | ok value => exact ⟨none, state, .inl rfl, rfl⟩
  | error failure =>
    let report := runReport (state.entry number).name (state.trigger trigger).due work args failure
    exact ⟨some report, state.countError number report, .inr ⟨report, rfl⟩, rfl⟩

theorem endRun_ending (state : State) (number trigger : Nat) (args : List Value) (mode : Mode)
    (work : Work) (outcome : Signal) :
    Ending state number trigger args mode outcome
      (state.endRun number trigger args mode work outcome).1
      (state.endRun number trigger args mode work outcome).2 := by
  obtain ⟨failed, noted, counted, eq⟩ := state.endRun_eq number trigger args mode work outcome
  rw [eq, goOn]
  have running := counted.neutral.isRunning number
  have held := counted.neutral.held number
  rw [running, held]
  split
  · next goes =>
    have arming := arm_arming noted number (nextArgs mode args outcome)
      (state.trigger trigger).due
    generalize noted.arm number (nextArgs mode args outcome) (state.trigger trigger).due =
      result at arming
    obtain ⟨later, failure | report⟩ := result
    · exact .goesOn counted goes.1 goes.2 arming (fun _ same => by cases same; rfl)
        fun _ same => by cases same
    · refine .goesOn counted goes.1 goes.2 arming (fun _ same => by cases same) fun _ _ => ?_
      refine ⟨failed.toList ++ report.toList, ?_⟩
      rw [List.map_append, ← reportFrames_eq, ← reportFrames_eq]
  · next finished =>
    rw [reportFrames_eq]
    exact .finished failed.toList counted finished

theorem Ending.local {trigger : Nat} {args : List Value} {mode : Mode} {outcome : Signal}
    {move : Move} (ending : Ending state number trigger args mode outcome later move) :
    Local number state later := by
  cases ending with
  | goesOn noted running held arming failed done => exact noted.local.trans arming.local
  | finished reports noted finished => exact noted.local.trans (endChain_local _ _ _)

/-- What a failure of a trigger comes to: the errors of a free trigger go elsewhere, and a trigger of
a task abandons the chain. -/
theorem complain_free {trigger : Nat} (free : state.owner trigger = none) (target : Work)
    (stage : String) (failure : Failure) :
    Unmoved state (state.complain trigger target stage failure).1 ∧
      (state.complain trigger target stage failure).2.IsPlain := by
  unfold complain
  dsimp only
  split
  · exact ⟨.tell _ _ _, .give _⟩
  · refine ⟨(Unmoved.record _ _).trans (.takeTurn _ _), ?_⟩
    simp [Move.IsPlain, Move.go, Move.frames, sinkFrames, Frame.isPlain]
  · next errors =>
    rw [owner, errors] at free
    cases free

theorem errors_of_owner {trigger : Nat} (owned : state.owner trigger = some number) :
    (state.trigger trigger).errors = .entry number := by
  unfold owner at owned
  split at owned
  · next errors => cases owned; exact errors
  · cases owned
  · cases owned

theorem complain_owned {trigger : Nat} (owned : state.owner trigger = some number)
    (target : Work) (stage : String) (failure : Failure) :
    ∃ report text, report.args = (state.trigger trigger).args ∧
      state.complain trigger target stage failure =
        ((state.abandonChain number trigger report).1,
          .go ((state.abandonChain number trigger report).2 ++ [.sunk text])) := by
  let report := triggerReport (state.trigger trigger) target stage failure
  refine ⟨report, "Error sink for trigger " ++ (state.trigger trigger).name ++
    " failed; original error: " ++ report.message, rfl, ?_⟩
  unfold complain
  dsimp only
  rw [errors_of_owner owned]

theorem complain_state (state : State) (trigger : Nat) (target : Work) (stage : String)
    (failure : Failure) :
    Unmoved state (state.complain trigger target stage failure).1 ∨
      ∃ number report, (state.complain trigger target stage failure).1 =
        (state.abandonChain number trigger report).1 := by
  cases owned : state.owner trigger with
  | none => exact .inl (complain_free owned target stage failure).1
  | some number =>
    obtain ⟨report, text, -, eq⟩ := complain_owned owned target stage failure
    exact .inr ⟨number, report, congrArg Prod.fst eq⟩

/-! ### Frames that are left to do -/

theorem mem_callbackFrames {callback : Option Work} {args : List Value} {frame : Frame}
    (member : frame ∈ callbackFrames number callback args) :
    ∃ work, callback = some work ∧ frame = .callback number work args := by
  cases callback with
  | none => cases member
  | some work => exact ⟨work, rfl, List.mem_singleton.mp member⟩

/-- A failure of a trigger leaves plain frames to do, and the callback of a stop that was issued against
the trigger. -/
theorem mem_complain {trigger : Nat} {target : Work} {stage : String} {failure : Failure}
    {frame : Frame} (member : frame ∈ (state.complain trigger target stage failure).2.frames) :
    frame.isPlain = true ∨ ∃ number work, state.owner trigger = some number ∧
      (state.entry number).stopCallback? trigger = some work ∧
      frame = .callback number work (state.trigger trigger).args := by
  cases owned : state.owner trigger with
  | none => exact .inl ((complain_free owned target stage failure).2 frame member)
  | some number =>
    obtain ⟨report, text, args, eq⟩ := complain_owned owned target stage failure
    rw [eq] at member
    rcases List.mem_append.mp member with member | member
    · rcases List.mem_cons.mp member with rfl | member
      · exact .inl rfl
      · obtain ⟨work, found, rfl⟩ := mem_callbackFrames member
        exact .inr ⟨number, work, rfl, found, by rw [args]⟩
    · exact .inl (List.mem_singleton.mp member ▸ rfl)

theorem Ending.mem_frames {trigger : Nat} {args : List Value} {mode : Mode} {outcome : Signal}
    {move : Move} (ending : Ending state number trigger args mode outcome later move)
    {frame : Frame} (member : frame ∈ move.frames) :
    frame.isPlain = true ∨ ∃ work, (state.entry number).stopCallback? trigger = some work ∧
      frame = .callback number work (nextArgs mode args outcome) := by
  have told : ∀ reports : List Report, frame ∈ reports.map Frame.report →
      frame.isPlain = true := by
    intro reports member
    obtain ⟨report, -, rfl⟩ := List.mem_map.mp member
    rfl
  cases ending with
  | @goesOn _ _ result _ _ _ _ _ failed done =>
    cases result with
    | error failure => rw [failed failure rfl] at member; cases member
    | ok report =>
      obtain ⟨reports, same⟩ := done report rfl
      rw [same] at member
      exact .inl (told reports member)
  | finished reports noted =>
    rcases List.mem_append.mp member with member | member
    · exact .inl (told reports member)
    · obtain ⟨work, found, rfl⟩ := mem_callbackFrames member
      exact .inr ⟨work, (noted.neutral.stopCallback? number trigger).symm.trans found, rfl⟩

end State

end Timetable
