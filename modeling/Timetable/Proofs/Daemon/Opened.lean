import Timetable.Daemon
import Timetable.Proofs.Config.Registered
import Timetable.Proofs.Daemon.Kept
import Timetable.Proofs.Zone.Gap

/-! The machine of a daemon before the first start.

The tasks of a configuration are registered on a machine at its start. Nothing runs there and nothing was
armed yet, so a session in which tasks are started and awaited can begin.
-/

set_option autoImplicit false

namespace Timetable

/-- A machine at its start, on which the first starts of threads will fail, up to a number of them. -/
def Setting.machine (setting : Setting) (failing : Nat) : State :=
  { State.initial setting with failingStarts := failing }

namespace State

variable {setting : Setting} {state : State} {tasks : List ConfiguredTask}

structure Fresh (setting : Setting) (state : State) : Prop where
  bare : state = { setting.machine state.failingStarts with
    entries := state.entries, registered := state.registered, log := state.log }
  linked : state.Linked

namespace Fresh

theorem machine (setting : Setting) (failing : Nat) : Fresh setting (setting.machine failing) := by
  refine ⟨rfl, (Sound.initial setting).linked.neutral (Unmoved.neutral ?_)⟩
  exact ⟨rfl, rfl, rfl, rfl, rfl, rfl, rfl, rfl⟩

theorem addTask (fresh : Fresh setting state) (name : String) (rule : Rule)
    (called : Library.Function) :
    Fresh setting (state.addTask name rule (.library called)).1 := by
  refine ⟨?_, fresh.linked.neutral (.addTask state name rule rfl)⟩
  have bare := fresh.bare
  unfold State.addTask
  split <;> (rw [bare]; rfl)

theorem tell (fresh : Fresh setting state) (level : Level) (line : String) :
    Fresh setting (state.tell level line) := by
  refine ⟨?_, fresh.linked.neutral (Unmoved.tell _ _ _).neutral⟩
  have bare := fresh.bare
  rw [bare]
  rfl

theorem stackOf (fresh : Fresh setting state) (agent : Agent) : state.stackOf agent = [] := by
  rw [fresh.bare]
  cases agent <;> rfl

theorem owner (fresh : Fresh setting state) (trigger : Nat) : state.owner trigger = none := by
  rw [fresh.bare]
  rfl

theorem isStarted (fresh : Fresh setting state) (trigger : Nat) :
    state.isStarted trigger = false := by
  rw [fresh.bare]
  rfl

theorem active (fresh : Fresh setting state) : state.active = none := by
  rw [fresh.bare]
  rfl

theorem setting_eq (fresh : Fresh setting state) : state.setting = setting := by
  rw [fresh.bare]
  rfl

theorem finished (fresh : Fresh setting state) : state.mainHasFinished = true := by
  rw [fresh.bare]
  rfl

theorem sound (fresh : Fresh setting state) : Sound state where
  linked := fresh.linked
  awake := by
    intro trigger stack signal active
    rw [fresh.active] at active
    cases active
  fits agent frame member := by rw [fresh.stackOf] at member; cases member

theorem ordered (fresh : Fresh setting state) : Ordered state where
  dated trigger number owned := by rw [fresh.owner] at owned; cases owned
  came trigger number universal owned := by rw [fresh.owner] at owned; cases owned
  later number one other owned := by rw [fresh.owner] at owned; cases owned

theorem punctual (fresh : Fresh setting state) : Punctual state where
  ordered := fresh.ordered
  upright := {
    buried := fun agent frame member => by rw [fresh.stackOf] at member; cases member
    top := fun agent frame rest stacked => by rw [fresh.stackOf] at stacked; cases stacked }
  ahead trigger universal awaited := by
    obtain ⟨number, owned⟩ := awaited.owned
    rw [fresh.owner] at owned
    cases owned
  near trigger universal awaited := by
    obtain ⟨number, owned⟩ := awaited.owned
    rw [fresh.owner] at owned
    cases owned
  queued trigger universal awaited := by
    obtain ⟨number, owned⟩ := awaited.owned
    rw [fresh.owner] at owned
    cases owned
  prompt trigger number args rest signal active := by rw [fresh.active] at active; cases active

end Fresh

theorem Holds.entry_eq (holds : state.Holds tasks) {number : Nat}
    (within : number < state.entries.size) : ∃ task ∈ tasks, state.entry number = task.entry := by
  have member : number ∈ state.registered := by
    rw [holds.numbered]
    exact List.mem_range.mpr within
  have listed := List.mem_map_of_mem (f := state.entry) member
  rw [holds.held] at listed
  obtain ⟨task, among, same⟩ := List.mem_map.mp listed
  exact ⟨task, among, same.symm⟩

theorem Holds.find?_of_mem (holds : state.Holds tasks) {task : ConfiguredTask}
    (member : task ∈ tasks) : ∃ number, state.find? task.name = some number := by
  refine Option.ne_none_iff_exists'.mp fun absent => ?_
  have listed := List.mem_map_of_mem (f := ConfiguredTask.name) member
  rw [← holds.names] at listed
  obtain ⟨number, among, same⟩ := List.mem_map.mp listed
  exact find?_none absent among same

/-- A machine that tasks were registered on can be used for starting and awaiting them. -/
theorem Fresh.manned (fresh : Fresh setting state) (holds : state.Holds tasks)
    (unscripted : setting.plans = none) (silent : setting.sink = none) (names : List String) :
    Manned names state ∧ ∀ number, (state.entry number).isRunning = false := by
  have entries : ∀ number, (state.entry number).isRunning = false ∧
      (state.entry number).stops = [] := by
    intro number
    by_cases within : number < state.entries.size
    · obtain ⟨task, -, same⟩ := holds.entry_eq within
      rw [same]
      exact ⟨rfl, rfl⟩
    · have absent : state.entry number = default := by
        unfold entry Store.get
        rw [Array.getElem?_eq_none (Nat.le_of_not_lt within)]
        rfl
      rw [absent]
      exact ⟨rfl, rfl⟩
  refine ⟨⟨fresh.sound, fresh.setting_eq ▸ unscripted, fresh.setting_eq ▸ silent, ?_, ?_, ?_, ?_,
    ?_, ?_⟩, fun number => (entries number).1⟩
  · intro number within
    obtain ⟨task, -, same⟩ := holds.entry_eq within
    rw [same]
    exact ⟨task.called, rfl⟩
  · intro number trigger
    rw [Entry.stopCallback?, (entries number).2]
    rfl
  · intro trigger started
    rw [fresh.isStarted] at started
    cases started
  · intro number trigger owned
    rw [fresh.owner] at owned
    cases owned
  · intro frame member
    rw [fresh.stackOf] at member
    cases member
  · intro number running
    rw [(entries number).1] at running
    cases running

theorem Fresh.watched (fresh : Fresh setting state) (holds : state.Holds tasks)
    (unscripted : setting.plans = none) (silent : setting.sink = none)
    (known : setting.zone.IsKnown) (names : List String) : Watched names state [] [] state := by
  obtain ⟨manned, idle⟩ := fresh.manned holds unscripted silent names
  refine ⟨.refl, manned, fresh.punctual, rfl, fresh.setting_eq ▸ known, Int.le_refl _,
    fun _ => rfl, ?_, ?_, ?_, fun _ member => absurd member List.not_mem_nil⟩
  · intro number report founders
    obtain ⟨_, _, _, active, -⟩ := founders
    rw [fresh.active] at active
    cases active
  · intro frame member
    rw [fresh.stackOf] at member
    cases member
  · intro number running
    rw [idle] at running
    cases running

end State

namespace Config

variable {config : Config} {document : Value} {clock : Int} {machine : MachineZone}

/-- The zone of a configuration is that of the machine, or one of the table. -/
theorem isKnown_of_ofDocument (read : ofDocument clock document machine = .ok config) :
    config.zone.IsKnown := by
  obtain ⟨entries, -, read⟩ := bound_eq_ok.mp read
  obtain ⟨defaults, -, read⟩ := bound_eq_ok.mp (unless_eq_ok read)
  obtain ⟨⟨zone, zoneName⟩, zoned, read⟩ := bound_eq_ok.mp (unless_eq_ok read)
  obtain ⟨default, -, read⟩ := bound_eq_ok.mp read
  have known : zone.IsKnown := by
    unfold zoneOf at zoned
    split at zoned
    · split at zoned
      · next found =>
        cases zoned
        obtain ⟨shown, -, found⟩ := bound_eq_ok.mp found
        obtain ⟨_, -, found⟩ := bound_eq_ok.mp found
        cases found
        rintro _ ⟨⟩
      · cases zoned
    · obtain ⟨own, named, same⟩ := mapped_eq_ok.mp zoned
      cases same
      unfold zoneNamed at named
      split at named
      · next found =>
        cases named
        exact Zone.isKnown_named (List.mem_of_find?_eq_some found)
      · cases named
    · cases zoned
  split at read
  · obtain ⟨tasks, -, read⟩ := bound_eq_ok.mp read
    cases read
    exact known
  · cases read

def enabledTasks (config : Config) : List ConfiguredTask :=
  config.tasks.filter ConfiguredTask.enabled

theorem select_enabled (enabled : ∃ task ∈ config.tasks, task.enabled = true) :
    select config.tasks "" false = .ok config.enabledTasks := by
  obtain ⟨task, member, enabled⟩ := enabled
  have some : config.enabledTasks.isEmpty = false := by
    rw [List.isEmpty_eq_false_iff_exists_mem]
    exact ⟨task, List.mem_filter.mpr ⟨member, enabled⟩⟩
  show (if config.enabledTasks.isEmpty = true then _ else _) = _
  rw [some]
  rfl

def opened (config : Config) (setting : Setting) (failing : Nat) : State :=
  (config.register ({ setting with zone := config.zone }.machine failing)).tell .info
    ("Starting daemon with " ++ Text.ofNat config.enabledTasks.length ++
      " enabled task(s), timezone=" ++ config.zoneName)

theorem launch_eq (config : Config) (setting : Setting) (failing : Nat) :
    Daemon.launch (setting.machine failing) config config.enabledTasks =
      Daemon.startAll (config.opened setting failing) config.enabledTasks :=
  rfl

theorem opened_fresh (config : Config) (setting : Setting) (failing : Nat) :
    State.Fresh { setting with zone := config.zone } (config.opened setting failing) := by
  refine State.Fresh.tell ?_ _ _
  unfold register
  generalize config.tasks = tasks
  induction tasks using List.reverseRecOn with
  | nil => exact .machine _ _
  | append_singleton tasks task ih =>
    rw [List.foldl_append]
    exact ih.addTask _ _ _

/-- Registering tasks has nothing to do with the starts of threads. -/
theorem register_failing (config : Config) (state : State) (failing : Nat) :
    config.register { state with failingStarts := failing } =
      { config.register state with failingStarts := failing } := by
  unfold register
  induction config.tasks generalizing state with
  | nil => rfl
  | cons task rest ih =>
    have same : ({ state with failingStarts := failing }.addTask task.name task.rule
        (.library task.called)).1 =
        { (state.addTask task.name task.rule (.library task.called)).1 with
          failingStarts := failing } := by
      unfold State.addTask
      split
      · next found => rw [show state.find? task.name = _ from found]; rfl
      · next found => rw [show state.find? task.name = _ from found]; rfl
    rw [List.foldl_cons, List.foldl_cons, same]
    exact ih _

theorem opened_holds (setting : Setting) (failing : Nat)
    (distinct : (config.tasks.map ConfiguredTask.name).Nodup) :
    (config.opened setting failing).Holds config.tasks := by
  obtain ⟨numbered, held⟩ := (isRegistered { setting with zone := config.zone } distinct).holds
  have same := register_failing config (.initial { setting with zone := config.zone }) failing
  unfold opened Setting.machine
  rw [same]
  exact ⟨numbered, held⟩

theorem opened_clock (config : Config) (setting : Setting) (failing : Nat) :
    (config.opened setting failing).clock = setting.start := by
  rw [(config.opened_fresh setting failing).bare]
  rfl

theorem opened_find? (setting : Setting) (failing : Nat)
    (distinct : (config.tasks.map ConfiguredTask.name).Nodup) {task : ConfiguredTask}
    (member : task ∈ config.enabledTasks) :
    ∃ number, (config.opened setting failing).find? task.name = some number :=
  (opened_holds setting failing distinct).find?_of_mem (List.mem_of_mem_filter member)

end Config

end Timetable
