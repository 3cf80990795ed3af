import Timetable.Machine.Step

/-! Changes of a state that leave every chain alone.

Each trigger that was armed for a task belongs to that task; all others are free. Most of what
operations do is neutral: it changes no task's chain and no trigger of a task. What is proved here of
each neutral change is all that the theory of chains needs to know of it.
-/

set_option autoImplicit false

namespace Timetable

def Work.isGiven : Work → Bool
  | .script _ _ _ | .library _ | .plain _ | .nothing => true
  | .fire _ _ | .settle _ _ | .resume _ _ _ | .logPending _ => false

def Work.isCallback : Work → Bool
  | .fire _ _ | .settle _ _ => false
  | _ => true

theorem Work.isCallback_of_isGiven {work : Work} (given : work.isGiven = true) :
    work.isCallback = true := by
  cases work <;> first | rfl | cases given

structure Chain where
  mode : Mode
  status : Status
  trigger : Option Nat
  stops : List (Nat × Work)
  nextRun : Option DateTime

def Entry.chain (entry : Entry) : Chain :=
  ⟨entry.mode, entry.status, entry.trigger, entry.stops, entry.nextRun⟩

namespace State

/-- The task that a trigger was armed for; a free trigger has none. -/
def owner (state : State) (trigger : Nat) : Option Nat :=
  match (state.trigger trigger).errors with
  | .entry number => some number
  | .log | .sink _ => none

def isStarted (state : State) (trigger : Nat) : Bool :=
  match (state.trigger trigger).thread with
  | .unstarted => false
  | .suspended _ | .running | .ended => true

def outcome (state : State) (trigger : Nat) : Option Outcome :=
  (state.trigger trigger).decision.outcome

/-- What holds of the registry and of work at all times: programs hand over no work of triggers, they
have no names for triggers of tasks, names of tasks are taken once, and only registered tasks run. -/
structure Tidy (state : State) : Prop where
  works : ∀ number, (state.entry number).work.isGiven = true
  free : ∀ trigger, state.owner trigger = none →
    (state.trigger trigger).work.isGiven = true ∧
      ∀ work, (state.trigger trigger).decision.callback = some work → work.isGiven = true
  labels : ∀ label ∈ state.labels,
    label.2 < state.triggers.size ∧ state.owner label.2 = none
  range : ∀ number ∈ state.registered, number < state.entries.size
  unique : ∀ first ∈ state.registered, ∀ second ∈ state.registered,
    (state.entry first).name = (state.entry second).name → first = second
  running : ∀ number, (state.entry number).isRunning = true → number ∈ state.registered

structure Unmoved (state later : State) : Prop where
  setting : later.setting = state.setting
  clock : later.clock = state.clock
  active : later.active = state.active
  main : later.main = state.main
  entries : later.entries = state.entries
  triggers : later.triggers = state.triggers
  labels : later.labels = state.labels
  registered : later.registered = state.registered

/-- `Neutral state later`: the chains and the triggers of tasks are in `later` what they were in
`state`. Free triggers may have been made, started and decided. -/
structure Neutral (state later : State) : Prop where
  setting : later.setting = state.setting
  clock : later.clock = state.clock
  active : later.active = state.active
  main : later.main = state.main
  entries : state.entries.size ≤ later.entries.size
  triggers : state.triggers.size ≤ later.triggers.size
  chain : ∀ number, (later.entry number).chain = (state.entry number).chain
  name : ∀ number < state.entries.size, (later.entry number).name = (state.entry number).name
  owned : ∀ trigger number, state.owner trigger = some number →
    later.trigger trigger = state.trigger trigger
  free : ∀ trigger, state.owner trigger = none → later.owner trigger = none
  decided : ∀ trigger, state.outcome trigger ≠ none → later.outcome trigger ≠ none
  thread : ∀ trigger, (later.trigger trigger).thread = (state.trigger trigger).thread ∨
    (state.trigger trigger).thread = .unstarted ∧
      (later.trigger trigger).thread = .suspended [.countdown trigger]
  tidy : state.Tidy → later.Tidy

variable {state middle later : State}

/-- A thread that each of two changes at most starts is at most started by both. -/
theorem thread_trans {trigger : Nat}
    (first : (middle.trigger trigger).thread = (state.trigger trigger).thread ∨
      (state.trigger trigger).thread = .unstarted ∧
        (middle.trigger trigger).thread = .suspended [.countdown trigger])
    (second : (later.trigger trigger).thread = (middle.trigger trigger).thread ∨
      (middle.trigger trigger).thread = .unstarted ∧
        (later.trigger trigger).thread = .suspended [.countdown trigger]) :
    (later.trigger trigger).thread = (state.trigger trigger).thread ∨
      (state.trigger trigger).thread = .unstarted ∧
        (later.trigger trigger).thread = .suspended [.countdown trigger] := by
  rcases first with same | ⟨before, started⟩
  · simpa only [same] using second
  · rcases second with same | ⟨unstarted, -⟩
    · exact .inr ⟨before, same.trans started⟩
    -- The first change started the thread, so the second one cannot have found it unstarted.
    · rw [started] at unstarted; cases unstarted

namespace Neutral

theorem refl (state : State) : Neutral state state where
  setting := rfl
  clock := rfl
  active := rfl
  main := rfl
  entries := Nat.le_refl _
  triggers := Nat.le_refl _
  chain _ := rfl
  name _ _ := rfl
  owned _ _ _ := rfl
  free _ same := same
  decided _ same := same
  thread _ := .inl rfl
  tidy same := same

theorem owner_eq (neutral : Neutral state later) (trigger : Nat) :
    later.owner trigger = state.owner trigger := by
  cases owner : state.owner trigger with
  | none => exact neutral.free trigger owner
  | some number => rw [State.owner, neutral.owned trigger number owner]; exact owner

theorem trans (first : Neutral state middle) (second : Neutral middle later) :
    Neutral state later where
  setting := second.setting.trans first.setting
  clock := second.clock.trans first.clock
  active := second.active.trans first.active
  main := second.main.trans first.main
  entries := Nat.le_trans first.entries second.entries
  triggers := Nat.le_trans first.triggers second.triggers
  chain number := (second.chain number).trans (first.chain number)
  name number within :=
    (second.name number (Nat.lt_of_lt_of_le within first.entries)).trans (first.name number within)
  owned trigger number owner :=
    (second.owned trigger number ((first.owner_eq trigger).trans owner)).trans
      (first.owned trigger number owner)
  free trigger owner := second.free trigger (first.free trigger owner)
  decided trigger outcome := second.decided trigger (first.decided trigger outcome)
  thread trigger := thread_trans (first.thread trigger) (second.thread trigger)
  tidy kept := second.tidy (first.tidy kept)

theorem status (neutral : Neutral state later) (number : Nat) :
    (later.entry number).status = (state.entry number).status :=
  congrArg Chain.status (neutral.chain number)

theorem held (neutral : Neutral state later) (number : Nat) :
    (later.entry number).trigger = (state.entry number).trigger :=
  congrArg Chain.trigger (neutral.chain number)

theorem stops (neutral : Neutral state later) (number : Nat) :
    (later.entry number).stops = (state.entry number).stops :=
  congrArg Chain.stops (neutral.chain number)

theorem nextRun (neutral : Neutral state later) (number : Nat) :
    (later.entry number).nextRun = (state.entry number).nextRun :=
  congrArg Chain.nextRun (neutral.chain number)

theorem stopCallback? (neutral : Neutral state later) (number trigger : Nat) :
    (later.entry number).stopCallback? trigger = (state.entry number).stopCallback? trigger := by
  rw [Entry.stopCallback?, neutral.stops]; rfl

theorem isRunning (neutral : Neutral state later) (number : Nat) :
    (later.entry number).isRunning = (state.entry number).isRunning := by
  rw [Entry.isRunning, neutral.status]; rfl

end Neutral

namespace Unmoved

theorem refl (state : State) : Unmoved state state :=
  ⟨rfl, rfl, rfl, rfl, rfl, rfl, rfl, rfl⟩

theorem trans (first : Unmoved state middle) (second : Unmoved middle later) :
    Unmoved state later :=
  ⟨second.setting.trans first.setting, second.clock.trans first.clock,
    second.active.trans first.active, second.main.trans first.main,
    second.entries.trans first.entries, second.triggers.trans first.triggers,
    second.labels.trans first.labels, second.registered.trans first.registered⟩

theorem entry (unmoved : Unmoved state later) (number : Nat) :
    later.entry number = state.entry number := by
  rw [State.entry, unmoved.entries]; rfl

theorem trigger (unmoved : Unmoved state later) (number : Nat) :
    later.trigger number = state.trigger number := by
  rw [State.trigger, unmoved.triggers]; rfl

theorem owner (unmoved : Unmoved state later) (number : Nat) :
    later.owner number = state.owner number := by
  rw [State.owner, unmoved.trigger]; rfl

theorem outcome (unmoved : Unmoved state later) (number : Nat) :
    later.outcome number = state.outcome number := by
  rw [State.outcome, unmoved.trigger]; rfl

theorem neutral (unmoved : Unmoved state later) : Neutral state later where
  setting := unmoved.setting
  clock := unmoved.clock
  active := unmoved.active
  main := unmoved.main
  entries := Nat.le_of_eq (by rw [unmoved.entries])
  triggers := Nat.le_of_eq (by rw [unmoved.triggers])
  chain number := by rw [unmoved.entry]
  name number _ := by rw [unmoved.entry]
  owned trigger _ _ := unmoved.trigger trigger
  free trigger free := by rw [unmoved.owner, free]
  decided trigger decided := by rw [unmoved.outcome]; exact decided
  thread trigger := .inl (by rw [unmoved.trigger])
  tidy tidy := by
    constructor
    · simpa only [unmoved.entry] using tidy.works
    · simpa only [unmoved.owner, unmoved.trigger] using tidy.free
    · simpa only [unmoved.owner, unmoved.labels, unmoved.triggers] using tidy.labels
    · simpa only [unmoved.entries, unmoved.registered] using tidy.range
    · simpa only [unmoved.entry, unmoved.registered] using tidy.unique
    · simpa only [unmoved.entry, unmoved.registered] using tidy.running

theorem tell (state : State) (level : Level) (line : String) :
    Unmoved state (state.tell level line) :=
  ⟨rfl, rfl, rfl, rfl, rfl, rfl, rfl, rfl⟩

theorem record (state : State) (event : Event) : Unmoved state (state.record event) :=
  ⟨rfl, rfl, rfl, rfl, rfl, rfl, rfl, rfl⟩

theorem takeTurn (state : State) (script : Nat) : Unmoved state (state.takeTurn script).1 :=
  ⟨rfl, rfl, rfl, rfl, rfl, rfl, rfl, rfl⟩

theorem handOver (state : State) (callable : Callable) :
    Unmoved state (state.handOver callable).1 := by
  cases callable <;> exact ⟨rfl, rfl, rfl, rfl, rfl, rfl, rfl, rfl⟩

theorem wake (state : State) (pause : Pause) : Unmoved state (state.wake pause) :=
  ⟨rfl, rfl, rfl, rfl, rfl, rfl, rfl, rfl⟩

end Unmoved

/-! ### Tasks -/

theorem entry_updateEntry (state : State) (number other : Nat) (change : Entry → Entry) :
    (state.updateEntry number change).entry other =
      if other = number ∧ number < state.entries.size then change (state.entry other)
      else state.entry other :=
  Store.get_update state.entries number other change

theorem entry_updateEntry_cases (state : State) (number other : Nat) (change : Entry → Entry) :
    (state.updateEntry number change).entry other = state.entry other ∨
      other = number ∧
        (state.updateEntry number change).entry other = change (state.entry number) := by
  rw [entry_updateEntry]
  split
  · next same => exact .inr ⟨same.1, by rw [same.1]⟩
  · exact .inl rfl

theorem entry_updateEntry_self {number : Nat} (within : number < state.entries.size)
    (change : Entry → Entry) :
    (state.updateEntry number change).entry number = change (state.entry number) := by
  rw [entry_updateEntry, if_pos ⟨rfl, within⟩]

theorem entry_of_le (state : State) {number : Nat} (beyond : state.entries.size ≤ number) :
    state.entry number = default := by
  simp only [State.entry, Store.get, Store.size] at beyond ⊢
  rw [Array.getElem?_eq_none beyond]; rfl

theorem Neutral.updateEntry (state : State) (number : Nat) (change : Entry → Entry)
    (chain : ∀ entry, (change entry).chain = entry.chain)
    (name : ∀ entry, (change entry).name = entry.name)
    (work : ∀ entry, entry.work.isGiven = true → (change entry).work.isGiven = true) :
    Neutral state (state.updateEntry number change) := by
  have sameChain : ∀ other,
      ((state.updateEntry number change).entry other).chain = (state.entry other).chain := by
    intro other; rw [entry_updateEntry]; split
    · exact chain _
    · rfl
  have sameName : ∀ other,
      ((state.updateEntry number change).entry other).name = (state.entry other).name := by
    intro other; rw [entry_updateEntry]; split
    · exact name _
    · rfl
  refine ⟨rfl, rfl, rfl, rfl, Nat.le_of_eq (Store.size_update ..).symm, Nat.le_refl _, sameChain,
    fun other _ => sameName other, fun _ _ _ => rfl, fun _ => id, fun _ => id, fun _ => .inl rfl,
    fun tidy => ⟨?works, tidy.free, tidy.labels, ?range, ?unique, ?running⟩⟩
  case works =>
    intro other; rw [entry_updateEntry]; split
    · exact work _ (tidy.works other)
    · exact tidy.works other
  case range =>
    intro other member
    exact Nat.lt_of_lt_of_eq (tidy.range other member) (Store.size_update ..).symm
  case unique =>
    intro first firstMember second secondMember same
    rw [sameName, sameName] at same
    exact tidy.unique first firstMember second secondMember same
  case running =>
    intro other running
    have status : ((state.updateEntry number change).entry other).status =
        (state.entry other).status := congrArg Chain.status (sameChain other)
    rw [Entry.isRunning, status] at running
    exact tidy.running other running

theorem Neutral.countError (state : State) (number : Nat) (report : Report) :
    Neutral state (state.countError number report) :=
  .updateEntry _ _ _ (fun _ => rfl) (fun _ => rfl) fun _ => id

theorem Neutral.noteRun (state : State) (number : Nat) (time : DateTime) :
    Neutral state (state.updateEntry number fun entry => entry.noteRun time) :=
  .updateEntry _ _ _ (fun _ => rfl) (fun _ => rfl) fun _ => id

theorem Neutral.updateRule (state : State) (number : Nat) (rule : Rule) :
    Neutral state (state.updateRule number rule) :=
  Neutral.trans (.updateEntry _ number (fun entry => { entry with rule }) (fun _ => rfl)
    (fun _ => rfl) fun _ => id) (Unmoved.tell _ _ _).neutral

theorem Neutral.updateWork (state : State) (number : Nat) {work : Work}
    (given : work.isGiven = true) : Neutral state (state.updateWork number work) :=
  Neutral.trans (.updateEntry _ number (fun entry => { entry with work }) (fun _ => rfl)
    (fun _ => rfl) fun _ _ => given) (Unmoved.tell _ _ _).neutral

theorem find?_mem {state : State} {name : String} {number : Nat}
    (found : state.find? name = some number) :
    number ∈ state.registered ∧ (state.entry number).name = name := by
  have member := List.mem_of_find?_eq_some found
  exact ⟨member, by simpa using List.find?_some found⟩

theorem find?_none {state : State} {name : String} (found : state.find? name = none)
    {number : Nat} (member : number ∈ state.registered) : (state.entry number).name ≠ name := by
  simpa using List.find?_eq_none.mp found number member

theorem chain_new (name : String) (rule : Rule) (work : Work) :
    (Entry.new name rule work).chain = (default : Entry).chain := rfl

theorem Neutral.addTask (state : State) (name : String) (rule : Rule) {work : Work}
    (given : work.isGiven = true) : Neutral state (state.addTask name rule work).1 := by
  unfold State.addTask
  split
  · exact (Unmoved.tell _ _ _).neutral
  · next absent =>
    refine .trans ?_ (Unmoved.tell _ _ _).neutral
    have entry : ∀ number, ({ state with
        entries := state.entries.add (.new name rule work)
        registered := state.registered ++ [state.entries.size] } : State).entry number =
        if number = state.entries.size then .new name rule work else state.entry number :=
      fun number => Store.get_add _ _ number
    have beyond := state.entry_of_le (Nat.le_refl state.entries.size)
    refine ⟨rfl, rfl, rfl, rfl, ?entries, Nat.le_refl _, ?chain, ?name, fun _ _ _ => rfl,
      fun _ => id, fun _ => id,
      fun _ => .inl rfl, fun tidy => ⟨?works, tidy.free, tidy.labels, ?range, ?unique, ?running⟩⟩
    case entries =>
      simp
    case chain =>
      intro number; rw [entry]; split
      -- Beyond the store every entry reads as the default one, which has the chain of a new task.
      · next same => rw [same, beyond]; exact chain_new ..
      · rfl
    case name =>
      intro number within; rw [entry, if_neg (Nat.ne_of_lt within)]
    case works =>
      intro number; rw [entry]; split
      · exact given
      · exact tidy.works number
    case range =>
      intro number member
      rcases List.mem_append.mp member with member | member
      · have := tidy.range number member; simp; omega
      · simp_all
    case unique =>
      intro first firstMember second secondMember
      rw [entry, entry]
      -- The name is new to the registry, since no task of it was found.
      have old : ∀ number ∈ state.registered,
          number ≠ state.entries.size ∧ (state.entry number).name ≠ name :=
        fun number member => ⟨Nat.ne_of_lt (tidy.range number member), find?_none absent member⟩
      rcases List.mem_append.mp firstMember with firstMember | firstMember <;>
        rcases List.mem_append.mp secondMember with secondMember | secondMember
      · rw [if_neg (old _ firstMember).1, if_neg (old _ secondMember).1]
        exact tidy.unique first firstMember second secondMember
      · rw [if_neg (old _ firstMember).1, if_pos (List.mem_singleton.mp secondMember)]
        exact fun same => absurd same (old _ firstMember).2
      · rw [if_pos (List.mem_singleton.mp firstMember), if_neg (old _ secondMember).1]
        exact fun same => absurd same.symm (old _ secondMember).2
      · rw [List.mem_singleton.mp firstMember, List.mem_singleton.mp secondMember]
        exact fun _ => rfl
    case running =>
      intro number
      rw [entry]; split
      · intro running; cases running
      · intro running; exact List.mem_append_left _ (tidy.running number running)

theorem Neutral.removeTask (state : State) (name : String) :
    Neutral state (state.removeTask name).1 := by
  unfold State.removeTask
  split
  · exact .refl _
  · next number found =>
    split
    · exact (Unmoved.tell _ _ _).neutral
    · next idle =>
      refine .trans ?_ (Unmoved.tell _ _ _).neutral
      refine ⟨rfl, rfl, rfl, rfl, Nat.le_refl _, Nat.le_refl _, fun _ => rfl, fun _ _ => rfl,
        fun _ _ _ => rfl, fun _ => id, fun _ => id, fun _ => .inl rfl,
        fun tidy => ⟨tidy.works, tidy.free, tidy.labels, ?_, ?_, ?_⟩⟩
      · exact fun other member => tidy.range other (List.mem_filter.mp member).1
      · exact fun first firstMember second secondMember => tidy.unique
          first (List.mem_filter.mp firstMember).1 second (List.mem_filter.mp secondMember).1
      · intro other running
        refine List.mem_filter.mpr ⟨tidy.running other running, ?_⟩
        apply decide_eq_true
        rintro rfl
        -- A task that runs is not the one that was removed.
        exact idle running

/-! ### Free triggers -/

theorem trigger_updateTrigger (state : State) (number other : Nat) (change : Trigger → Trigger) :
    (state.updateTrigger number change).trigger other =
      if other = number ∧ number < state.triggers.size then change (state.trigger other)
      else state.trigger other :=
  Store.get_update state.triggers number other change

theorem trigger_of_le (state : State) {trigger : Nat} (beyond : state.triggers.size ≤ trigger) :
    state.trigger trigger = default := by
  simp only [State.trigger, Store.get, Store.size] at beyond ⊢
  rw [Array.getElem?_eq_none beyond]; rfl

theorem owner_of_le (state : State) {trigger : Nat} (beyond : state.triggers.size ≤ trigger) :
    state.owner trigger = none := by
  rw [owner, state.trigger_of_le beyond]; rfl

theorem Neutral.updateTrigger {number : Nat} (free : state.owner number = none)
    (change : Trigger → Trigger)
    (errors : (change (state.trigger number)).errors = (state.trigger number).errors)
    (decided : (state.trigger number).decision.outcome ≠ none →
      (change (state.trigger number)).decision.outcome ≠ none)
    (thread : (change (state.trigger number)).thread = (state.trigger number).thread ∨
      (state.trigger number).thread = .unstarted ∧
        (change (state.trigger number)).thread = .suspended [.countdown number])
    (work : (change (state.trigger number)).work = (state.trigger number).work)
    (callback : ∀ work, (change (state.trigger number)).decision.callback = some work →
      work.isGiven = true ∨ (state.trigger number).decision.callback = some work) :
    Neutral state (state.updateTrigger number change) := by
  -- Two cases serve every field below: a trigger is as it was, or it is the free one that changed.
  have trigger : ∀ other, (state.updateTrigger number change).trigger other =
      state.trigger other ∨ other = number ∧
        (state.updateTrigger number change).trigger other = change (state.trigger number) := by
    intro other; rw [trigger_updateTrigger]; split
    · next same => exact .inr ⟨same.1, by rw [same.1]⟩
    · exact .inl rfl
  have owner : ∀ other, (state.updateTrigger number change).owner other = state.owner other := by
    intro other
    rcases trigger other with same | ⟨rfl, changed⟩
    · rw [State.owner, same]; rfl
    · rw [State.owner, changed, errors]; rfl
  refine ⟨rfl, rfl, rfl, rfl, Nat.le_refl _, Nat.le_of_eq (Store.size_update ..).symm, fun _ => rfl,
    fun _ _ => rfl, ?owned, fun other => by rw [owner]; exact id, ?decided, ?thread,
    fun tidy => ⟨tidy.works, ?free, ?labels, tidy.range, tidy.unique, tidy.running⟩⟩
  case owned =>
    intro other task owned
    rcases trigger other with same | ⟨rfl, -⟩
    · exact same
    · rw [free] at owned; cases owned
  case decided =>
    intro other
    rcases trigger other with same | ⟨rfl, changed⟩
    · simp only [outcome, same]; exact id
    · simp only [outcome, changed]; exact decided
  case thread =>
    intro other
    rcases trigger other with same | ⟨rfl, changed⟩
    · exact .inl (by rw [same])
    · rw [changed]; exact thread
  case free =>
    intro other ownerless
    rw [owner] at ownerless
    rcases trigger other with same | ⟨rfl, changed⟩
    · rw [same]; exact tidy.free other ownerless
    · rw [changed, work]
      refine ⟨(tidy.free other ownerless).1, fun called found => ?_⟩
      exact (callback called found).elim id ((tidy.free other ownerless).2 called)
  case labels =>
    intro label member
    rw [owner]
    exact ⟨Nat.lt_of_lt_of_eq (tidy.labels label member).1 (Store.size_update ..).symm,
      (tidy.labels label member).2⟩

theorem trigger_makeTrigger (state : State) (due : Option DateTime) (work : Work)
    (args : List Value) (errors : ErrorTarget) (name : String) :
    ∃ given, ∀ other, (state.makeTrigger due work args errors name).trigger other =
      if other = state.triggers.size then
        ⟨due, work, args, errors, given, .undecided, false, .unstarted⟩
      else state.trigger other :=
  ⟨_, fun other => Store.get_add _ _ other⟩

theorem Neutral.makeTrigger (state : State) (due : Option DateTime) {work : Work}
    (args : List Value) {errors : ErrorTarget} (name : String) (given : work.isGiven = true)
    (free : ∀ number, errors ≠ .entry number) :
    Neutral state (state.makeTrigger due work args errors name) := by
  obtain ⟨_, trigger⟩ := state.trigger_makeTrigger due work args errors name
  have beyond := state.owner_of_le (Nat.le_refl state.triggers.size)
  have absent := state.trigger_of_le (Nat.le_refl state.triggers.size)
  have owner : ∀ other,
      (state.makeTrigger due work args errors name).owner other = state.owner other := by
    intro other
    by_cases new : other = state.triggers.size
    · rw [State.owner, trigger, if_pos new, new, beyond]
      cases errors with
      | entry number => exact absurd rfl (free number)
      | log => rfl
      | sink sink => rfl
    · rw [State.owner, trigger, if_neg new]; rfl
  refine ⟨rfl, rfl, rfl, rfl, Nat.le_refl _, ?triggers, fun _ => rfl, fun _ _ => rfl, ?owned,
    fun other => by rw [owner]; exact id, ?decided, ?thread,
    fun tidy => ⟨tidy.works, ?free, ?labels, tidy.range, tidy.unique, tidy.running⟩⟩
  case triggers =>
    exact Nat.le_trans (Nat.le_succ _) (Nat.le_of_eq (Store.size_add ..).symm)
  case owned =>
    intro other number owned
    refine (trigger other).trans (if_neg ?_)
    rintro rfl
    rw [beyond] at owned; cases owned
  case decided =>
    intro other
    simp only [outcome, trigger]; split
    · next new => rw [new, absent]; exact fun decided => absurd rfl decided
    · exact id
  case thread =>
    intro other
    rw [trigger]; split
    -- The thread of a trigger that did not exist counted as unstarted too.
    · next new => rw [new, absent]; exact .inl rfl
    · exact .inl rfl
  case free =>
    intro other ownerless
    rw [owner] at ownerless
    rw [trigger]; split
    · exact ⟨given, fun called found => by cases found⟩
    · exact tidy.free other ownerless
  case labels =>
    intro label member
    rw [owner]
    exact ⟨Nat.lt_of_lt_of_le (tidy.labels label member).1 (Nat.le_trans (Nat.le_succ _)
      (Nat.le_of_eq (Store.size_add ..).symm)), (tidy.labels label member).2⟩

theorem Neutral.startThread {trigger : Nat} (free : state.owner trigger = none) :
    Neutral state (state.startThread trigger).1 := by
  -- To mark the trigger as begun is one neutral change, and to start its thread is another.
  have begun : Neutral state (state.updateTrigger trigger fun trigger =>
      { trigger with begun := true }) :=
    .updateTrigger free _ rfl id (.inl rfl) rfl fun _ => .inr
  unfold State.startThread
  dsimp only
  split
  · exact begun.trans (Unmoved.neutral ⟨rfl, rfl, rfl, rfl, rfl, rfl, rfl, rfl⟩)
  · next unstarted =>
    have suspended := Neutral.updateTrigger ((begun.owner_eq trigger).trans free)
      (fun started => { started with thread := .suspended [.countdown trigger] })
      rfl id (.inr ⟨unstarted, rfl⟩) rfl fun _ => .inr
    exact (begun.trans suspended).trans
      (Unmoved.neutral ⟨rfl, rfl, rfl, rfl, rfl, rfl, rfl, rfl⟩)
  · exact begun

theorem commit_decision (state : State) (trigger : Nat) (outcome : Outcome)
    (callback : Option Work) :
    (state.commit trigger outcome callback).2 = false ∧
        (state.commit trigger outcome callback).1 = state ∧ state.outcome trigger ≠ none ∨
      (state.commit trigger outcome callback).2 = true ∧
        (state.commit trigger outcome callback).1 =
          (state.updateTrigger trigger fun committed =>
            { committed with decision := ⟨some outcome, callback⟩ }).wake (.decision trigger) ∧
        state.outcome trigger = none := by
  unfold State.commit Decision.commit
  dsimp only [State.outcome]
  cases (state.trigger trigger).decision.outcome with
  | none => exact .inr ⟨rfl, rfl, rfl⟩
  | some decided => exact .inl ⟨rfl, rfl, by rintro ⟨⟩⟩

theorem Neutral.commit {trigger : Nat} (free : state.owner trigger = none) (outcome : Outcome)
    {callback : Option Work} (given : ∀ work, callback = some work → work.isGiven = true) :
    Neutral state (state.commit trigger outcome callback).1 := by
  rcases state.commit_decision trigger outcome callback with ⟨-, same, -⟩ | ⟨-, changed, -⟩
  · rw [same]; exact .refl _
  · rw [changed]
    refine .trans ?_ (Unmoved.wake _ _).neutral
    exact .updateTrigger free _ rfl (fun _ => (by rintro ⟨⟩)) (.inl rfl) rfl fun work found =>
      .inl (given work found)

end State

end Timetable
