import Timetable.Command
import Timetable.Proofs.Daemon.Opened

/-! Starts and polls of a daemon.

The enabled tasks of a configuration are started one after the other, and then awaited poll by poll. Each
task that was started is kept, and each poll that is not cut short takes its time.
-/

set_option autoImplicit false

namespace Timetable

namespace State

variable {names : List String} {first state : State} {numbers : List Nat} {past : List State}
  {number : Nat} {signal : Signal}

theorem runUntil_leaves (active : state.active = some ⟨.main, [], signal⟩)
    (running : state.main = .running) (fuel : Nat) :
    (state.runUntil mainHasFinished fuel).result = .error .unfinished ∨
      (state.runUntil mainHasFinished fuel).result = signal := by
  cases fuel with
  | zero => exact .inl (by rw [State.runUntil, State.result, running])
  | succ fuel =>
    have going : state.mainHasFinished = false := by rw [mainHasFinished, active]
    have stepped : state.step = some { state with active := none, main := .finished signal } := by
      rw [State.step, active]
      rfl
    rw [State.runUntil, going, stepped]
    cases fuel with
    | zero => exact .inr rfl
    | succ fuel => exact .inr rfl

namespace Watched

theorem complete_start (watched : Watched names first numbers past state)
    (finished : state.mainHasFinished = true) {name : String} (named : name ∈ names)
    (found : state.find? name = some number) (idle : (state.entry number).isRunning = false)
    {mode : Mode} {args : List Value} {value : Value}
    (succeeded : (state.complete (.start name mode args)).result = .ok value) :
    ∃ added, Watched names first (number :: numbers) (added ++ past)
        (state.complete (.start name mode args)) ∧
      (state.complete (.start name mode args)).mainHasFinished = true := by
  obtain ⟨next, stepped, either⟩ := watched.start finished named found idle mode args
  obtain ⟨fuel, same⟩ := complete_eq stepped
  rw [same] at succeeded ⊢
  rcases either with ⟨kept, closes⟩ | ⟨failure, running, active⟩
  · obtain ⟨added, along⟩ := kept.runUntil mainHasFinished fuel
    refine ⟨added ++ [_, state], by simpa using along, ?_⟩
    rcases (closes.runUntil fuel).result with lost | finished
    · rw [succeeded] at lost; cases lost
    · exact finished
  · rcases runUntil_leaves active running fuel with lost | failed
    · rw [succeeded] at lost; cases lost
    · rw [succeeded] at failed; cases failed

theorem complete_advance (watched : Watched names first numbers past state)
    (finished : state.mainHasFinished = true) (micros : Int) :
    ∃ added, Watched names first numbers (added ++ past) (state.complete (.advance micros)) := by
  obtain ⟨added, along⟩ := (watched.wait finished micros).runUntil mainHasFinished patience
  refine ⟨added ++ [state], ?_⟩
  rw [List.append_assoc]
  exact along

theorem renumber (watched : Watched names first numbers past state) {others : List Nat}
    (same : ∀ number, number ∈ others ↔ number ∈ numbers) :
    Watched names first others past state :=
  { watched with
    started := fun number running => (same number).mpr (watched.started number running)
    kept := fun number member => watched.kept number ((same number).mp member) }

end Watched

end State

namespace Daemon

variable {names : List String} {first state launched : State} {past : List State}
  {tasks done : List ConfiguredTask}

def numbersOf (first : State) (tasks : List ConfiguredTask) : List Nat :=
  tasks.filterMap fun task => first.find? task.name

theorem mem_numbersOf {number : Nat} :
    number ∈ numbersOf first tasks ↔ ∃ task ∈ tasks, first.find? task.name = some number :=
  List.mem_filterMap

theorem startAll_watched (found : ∀ task ∈ tasks, task.name ∈ names ∧
      ∃ number, first.find? task.name = some number)
    (distinct : ((tasks.reverse ++ done).map ConfiguredTask.name).Nodup)
    (watched : State.Watched names first (numbersOf first done) past state)
    (finished : state.mainHasFinished = true)
    (started : startAll state tasks = (launched, .ok ())) :
    ∃ more, State.Watched names first (numbersOf first (tasks.reverse ++ done)) more launched ∧
      launched.mainHasFinished = true := by
  induction tasks generalizing done past state with
  | nil =>
    cases started
    exact ⟨past, watched, finished⟩
  | cons task rest ih =>
    obtain ⟨named, number, located⟩ := found task List.mem_cons_self
    have here : state.find? task.name = some number := (watched.located task.name).trans located
    rw [List.reverse_cons, List.append_assoc, List.singleton_append] at distinct ⊢
    -- The task has not been started yet, since no other task has its name.
    have idle : (state.entry number).isRunning = false := by
      refine Bool.eq_false_iff.mpr fun running => ?_
      obtain ⟨other, earlier, same⟩ := mem_numbersOf.mp (watched.started number running)
      have twice : other.name = task.name :=
        (State.find?_mem ((watched.located other.name).trans same)).2.symm.trans
          (State.find?_mem here).2
      rw [List.map_append, List.nodup_append] at distinct
      exact (List.nodup_cons.mp distinct.2.1).1 (List.mem_map.mpr ⟨other, earlier, twice⟩)
    unfold startAll at started
    dsimp only at started
    cases ended : (task.start state).result with
    | error failure =>
      rw [ended] at started
      cases started
    | ok value =>
      rw [ended] at started
      obtain ⟨added, later, closed⟩ := watched.complete_start finished named here idle ended
      have numbered : number :: numbersOf first done = numbersOf first (task :: done) := by
        rw [numbersOf, numbersOf, List.filterMap_cons, located]
      rw [numbered] at later
      exact ih (fun other member => found other (List.mem_cons_of_mem _ member)) distinct later closed
        started

end Daemon

namespace Config

variable {config : Config} {setting : Setting} {failing : Nat} {pollSeconds : Int} {polls : Nat}
  {seen : State}

/-- `Polled config setting failing pollSeconds polls seen`: a daemon has started the enabled tasks and has slept a
number of times, and is about to look at the tasks. -/
inductive Polled (config : Config) (setting : Setting) (failing : Nat) (pollSeconds : Int) :
    Nat → State → Prop where
  | launched {state : State} :
      Daemon.launch (setting.machine failing) config config.enabledTasks = (state, .ok ()) →
      Polled config setting failing pollSeconds 0 state
  | slept {polls : Nat} {state : State} {value : Value} :
      Polled config setting failing pollSeconds polls state →
      Daemon.anyRunning state config.enabledTasks = true →
      (Daemon.sleep state pollSeconds).result = .ok value →
      Polled config setting failing pollSeconds (polls + 1) (Daemon.sleep state pollSeconds)

/-- The interrupt arrives while a daemon sleeps, after a look at the tasks. -/
def Interrupts (config : Config) (setting : Setting) (failing : Nat) (pollSeconds : Int)
    (seen : State) : Prop :=
  ∃ polls, Polled config setting failing pollSeconds polls seen ∧
    Daemon.anyRunning seen config.enabledTasks = true ∧
    (Daemon.sleep seen pollSeconds).result = .error .interrupt

structure Looks (config : Config) (setting : Setting) (failing polls : Nat) (pollSeconds : Int)
    (seen : State) : Prop where
  watched : ∃ past, State.Watched (config.enabledTasks.map ConfiguredTask.name)
    (config.opened setting failing)
    (Daemon.numbersOf (config.opened setting failing) config.enabledTasks) past seen
  finished : seen.mainHasFinished = true
  /-- Every sleep took its time, and the interrupt was not to come before its end. -/
  slept : setting.start + polls * (pollSeconds * secondMicros) ≤ seen.clock
  uncut : polls ≠ 0 → ∀ time, setting.interruptAt = some time →
    setting.start + polls * (pollSeconds * secondMicros) < time

theorem Polled.looks (distinct : (config.tasks.map ConfiguredTask.name).Nodup)
    (known : config.zone.IsKnown) (unscripted : setting.plans = none) (silent : setting.sink = none)
    (polled : Polled config setting failing pollSeconds polls seen) :
    Looks config setting failing polls pollSeconds seen := by
  induction polled with
  | launched started =>
    rw [launch_eq] at started
    have fresh := config.opened_fresh setting failing
    have watched := fresh.watched (opened_holds setting failing distinct) unscripted silent known
      (config.enabledTasks.map ConfiguredTask.name)
    have apart : ((config.enabledTasks.reverse ++ []).map ConfiguredTask.name).Nodup := by
      rw [List.append_nil, List.map_reverse, List.nodup_reverse]
      exact (List.filter_sublist.map _).nodup distinct
    obtain ⟨past, along, finished⟩ := Daemon.startAll_watched
      (fun task member => ⟨List.mem_map_of_mem member, opened_find? setting failing distinct member⟩) apart
      watched fresh.finished started
    refine ⟨⟨past, along.renumber fun number => ?_⟩, finished, ?_, fun none => absurd rfl none⟩
    · rw [Daemon.mem_numbersOf, Daemon.mem_numbersOf]
      simp
    · rw [← opened_clock config setting failing]
      simpa using along.clock
  | @slept polls state value polled running ended ih =>
    obtain ⟨past, watched⟩ := ih.watched
    have slept := State.complete_slept watched.manned.sound ih.finished (pollSeconds * secondMicros)
    obtain ⟨added, along⟩ := watched.complete_advance ih.finished (pollSeconds * secondMicros)
    have late : setting.start + ((polls + 1 : Nat) : Int) * (pollSeconds * secondMicros) ≤
        state.clock + pollSeconds * secondMicros := by
      rw [Int.natCast_add, Int.add_mul, Int.natCast_one, Int.one_mul, ← Int.add_assoc]
      exact Int.add_le_add_right ih.slept _
    change (state.complete (.advance (pollSeconds * secondMicros))).result = _ at ended
    cases slept with
    | unfinished lost => rw [ended] at lost; cases lost
    | cut _ _ failed => rw [ended] at failed; cases failed
    | whole uncut finished _ took =>
      refine ⟨⟨added ++ past, along⟩, finished, Int.le_trans late took, fun _ time given => ?_⟩
      refine Int.lt_of_le_of_lt late (Int.not_le.mp fun early => uncut ⟨time, ?_, early⟩)
      rw [watched.setting, (config.opened_fresh setting failing).setting_eq]
      exact given

end Config

end Timetable
