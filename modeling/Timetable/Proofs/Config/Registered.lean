import Timetable.Proofs.Config.Checked

/-! The tasks of a configuration in the registry.

A configuration that was checked is registered task by task. As no two of its tasks have one name, no
addition is ignored, and the registry holds the tasks in order, all of them idle.
-/

set_option autoImplicit false

namespace Timetable

def ConfiguredTask.entry (task : ConfiguredTask) : Entry :=
  .new task.name task.rule (.library task.called)

namespace State

structure Holds (state : State) (tasks : List ConfiguredTask) : Prop where
  numbered : state.registered = List.range state.entries.size
  held : state.registered.map state.entry = tasks.map ConfiguredTask.entry

variable {state : State} {tasks : List ConfiguredTask} {task : ConfiguredTask}

theorem Holds.initial (setting : Setting) : Holds (.initial setting) [] :=
  ⟨rfl, rfl⟩

theorem Holds.names (holds : state.Holds tasks) : state.names = tasks.map ConfiguredTask.name := by
  have names := congrArg (List.map Entry.name) holds.held
  rw [List.map_map, List.map_map] at names
  exact names

theorem Holds.addTask (holds : state.Holds tasks) (fresh : task.name ∉ tasks.map ConfiguredTask.name) :
    (state.addTask task.name task.rule (.library task.called)).2 = true ∧
      (state.addTask task.name task.rule (.library task.called)).1.Holds (tasks ++ [task]) := by
  have absent : state.find? task.name = none := by
    refine List.find?_eq_none.mpr fun number member taken => fresh ?_
    rw [← holds.names]
    exact List.mem_map.mpr ⟨number, member, of_decide_eq_true taken⟩
  unfold State.addTask
  simp only [absent]
  refine ⟨trivial, ?_, ?_⟩
  · show state.registered ++ [state.entries.size] = List.range (state.entries.add _).size
    rw [Store.size_add, List.range_succ, holds.numbered]
  · show (state.registered ++ [state.entries.size]).map (state.entries.add task.entry).get = _
    rw [List.map_append, List.map_append, ← holds.held]
    -- The numbers that were given before are below that of the new entry.
    have kept : state.registered.map (state.entries.add task.entry).get =
        state.registered.map state.entry := by
      refine List.map_congr_left fun number member => ?_
      rw [holds.numbered, List.mem_range] at member
      rw [Store.get_add, if_neg (Nat.ne_of_lt member)]
      rfl
    rw [kept, List.map_singleton, List.map_singleton, Store.get_add, if_pos rfl]

end State

namespace Config

variable {config : Config} {document : Value} {clock : Int}

def withTasks (config : Config) (tasks : List ConfiguredTask) : Config :=
  { config with tasks }

structure IsRegistered (config : Config) (setting : Setting) : Prop where
  holds : (config.register (.initial setting)).Holds config.tasks
  names : (config.register (.initial setting)).names = config.tasks.map ConfiguredTask.name
  count : (config.register (.initial setting)).registered = List.range config.tasks.length
  idle : ∀ number ∈ (config.register (.initial setting)).registered,
    ((config.register (.initial setting)).entry number).status = .idle ∧
      ((config.register (.initial setting)).entry number).trigger = none
  added : ∀ before task after, config.tasks = before ++ task :: after →
    (((config.withTasks before).register (.initial setting)).addTask task.name task.rule
      (.library task.called)).2 = true

theorem register_append (config : Config) (tasks : List ConfiguredTask) (task : ConfiguredTask)
    (state : State) : (config.withTasks (tasks ++ [task])).register state =
      (((config.withTasks tasks).register state).addTask task.name task.rule
        (.library task.called)).1 :=
  List.foldl_append

theorem register_holds (config : Config) (setting : Setting) {tasks : List ConfiguredTask}
    (distinct : (tasks.map ConfiguredTask.name).Nodup) :
    ((config.withTasks tasks).register (.initial setting)).Holds tasks := by
  induction tasks using List.reverseRecOn with
  | nil => exact .initial setting
  | append_singleton tasks task ih =>
    rw [List.map_append, List.nodup_append] at distinct
    obtain ⟨earlier, -, apart⟩ := distinct
    rw [register_append]
    refine ((ih earlier).addTask fun taken => ?_).2
    exact apart _ taken _ List.mem_cons_self rfl

theorem isRegistered (setting : Setting)
    (distinct : (config.tasks.map ConfiguredTask.name).Nodup) : config.IsRegistered setting := by
  have holds := register_holds config setting distinct
  change (config.register (.initial setting)).Holds config.tasks at holds
  have size := congrArg List.length holds.held
  rw [List.length_map, List.length_map, holds.numbered, List.length_range] at size
  refine ⟨holds, holds.names, size ▸ holds.numbered, fun number member => ?_,
    fun before task after parted => ?_⟩
  · have listed := List.mem_map_of_mem (f := (config.register (.initial setting)).entry) member
    rw [holds.held] at listed
    obtain ⟨task, -, same⟩ := List.mem_map.mp listed
    rw [← same]
    exact ⟨rfl, rfl⟩
  · rw [parted, List.map_append, List.nodup_append] at distinct
    obtain ⟨earlier, -, apart⟩ := distinct
    refine ((register_holds config setting earlier).addTask fun taken => ?_).1
    exact apart _ taken _ List.mem_cons_self rfl

/-- A document that a file holds is refused with an error of configurations, or it gives a
configuration that has the tasks of its list and registers all of them. Nothing else is raised,
unless the document names no zone and that of the machine cannot be told from its clock, or a number
in a schedule has too many digits. -/
theorem ofDocument_checks (machine : MachineZone) (clock : Int) (document : Value)
    (loaded : document.isLoaded = true) :
    (∃ error, ofDocument clock document machine = .error error ∧
      (error.failure.kind = "ConfigError" ∨ Breaks machine clock document error.failure)) ∨
    ∃ config, ofDocument clock document machine = .ok config ∧ config.IsChecked document ∧
      ∀ setting, config.IsRegistered setting := by
  cases read : ofDocument clock document machine with
  | error error =>
    refine .inl ⟨error, rfl, (ofDocument_reports machine clock loaded error read).imp ?_ ?_⟩
    · intro told
      rw [ConfigError.failure, told]
      rfl
    · rintro ⟨failure, told, breaks⟩
      rwa [ConfigError.failure, told, Option.getD_some]
  | ok config =>
    have checked := isChecked_of_ofDocument loaded read
    exact .inr ⟨config, rfl, checked, fun setting => isRegistered setting checked.distinct⟩

section Plain

def ofTasks (first : Value) (rest : List Value) : Value :=
  .mapping [(.text "tasks", .list (first :: rest))]

theorem unknownKeys_of_known {known : List String} {entries : List (Value × Value)}
    (each : (entries.all fun entry => known.any fun name => Value.sameKey entry.1 (.text name)) =
      true) : unknownKeys known entries = [] := by
  have none : (entries.map Prod.fst).filter
      (fun key => !known.any fun name => Value.sameKey key (.text name)) = [] := by
    refine List.filter_eq_nil_iff.mpr fun key member => ?_
    obtain ⟨entry, listed, rfl⟩ := List.mem_map.mp member
    simpa using List.all_eq_true.mp each entry listed
  simp only [unknownKeys, none, List.mergeSort_nil]

theorem ofDocument_ofTasks (clock : Int) (first : Value) (rest : List Value) :
    ofDocument clock (ofTasks first rest) = do
      let (zone, zoneName) ← zoneOf clock .null
      let tasks ← tasksFrom .chain [] 0 (first :: rest)
      return { zone, zoneName, tasks } := by
  have known : unknownKeys ["version", "defaults", "tasks"] (ofTasks first rest).entries = [] :=
    unknownKeys_of_known rfl
  have none : unknownKeys ["timezone", "mode"] [] = [] := unknownKeys_of_known rfl
  have entered : mappingOf (ofTasks first rest) .topLevelNotMapping =
      .ok (ofTasks first rest).entries := rfl
  have defaults : mappingOf (entryOf (ofTasks first rest).entries "defaults") .defaultsNotMapping =
      .ok [] := rfl
  simp only [ofDocument, entered, known, defaults, none, bind, Except.bind, List.isEmpty_nil,
    Bool.not_true, Bool.false_eq_true, if_false]
  rfl

def echoEvery : List (Value × Value) :=
  [(.text "name", .text " echo "), (.text "cron", .text "*/5 * * * *"),
    (.text "target", .text "tasklib:echo")]

theorem ofDocument_checks_echo :
    ∃ config, ofDocument dayMicros (ofTasks (.mapping echoEvery) []) = .ok config ∧
      config.IsChecked (ofTasks (.mapping echoEvery) []) ∧
      ∀ setting, config.IsRegistered setting := by
  obtain ⟨error, failed, -⟩ | accepted :=
    ofDocument_checks .universal dayMicros (ofTasks (.mapping echoEvery) []) (by decide)
  · have known : unknownKeys taskKeys echoEvery = [] := unknownKeys_of_known (by decide)
    obtain ⟨task, told⟩ : ∃ task, taskOfEntries echoEvery "tasks[0]" .chain = .ok task := by
      unfold taskOfEntries
      simp only [known]
      exact ⟨_, rfl⟩
    have tasks : tasksFrom .chain [] 0 [.mapping echoEvery] = .ok [task] := by
      have named : taskOf (.mapping echoEvery) ("tasks[" ++ Text.ofNat 0 ++ "]") .chain = .ok task :=
        told
      simp only [tasksFrom, named]
      rfl
    have zone : zoneOf dayMicros .null = .ok (.universal, "UTC") := rfl
    rw [ofDocument_ofTasks, zone] at failed
    simp only [tasks, bind, Except.bind, pure, Except.pure, reduceCtorEq] at failed
  · exact accepted

/-- Before the second day of the calendar the zone of the machine cannot be told. -/
theorem not_ofDocument_checks :
    (ofTasks (.mapping echoEvery) []).isLoaded = true ∧
      ¬ ((∃ error, ofDocument 0 (ofTasks (.mapping echoEvery) []) = .error error ∧
          error.failure.kind = "ConfigError") ∨
        ∃ config, ofDocument 0 (ofTasks (.mapping echoEvery) []) = .ok config) := by
  have zone : zoneOf 0 .null = .error (.noZone (.noSuchYear 0)) := rfl
  rw [ofDocument_ofTasks, zone]
  refine ⟨by decide, ?_⟩
  rintro (⟨error, ⟨⟩, kind⟩ | ⟨config, ⟨⟩⟩)
  exact absurd kind (by decide)

end Plain

end Config

end Timetable
