import Timetable.Proofs.Daemon.CleanUp
import Timetable.Proofs.Daemon.Launched

/-! How a daemon ends.

A daemon that nobody interrupts ends when all of its tasks have been given up, and with an error: a task that
was started goes on until no run can be planned, armed or awaited. One that is interrupted stops each task
that runs, once.
-/

set_option autoImplicit false

namespace Timetable

namespace State

variable {state : State} {number : Nat} {report : Report}

/-- The report of a chain that breaks off while it is armed has a text. -/
theorem arm_told {args : List Value} {after : Option DateTime}
    (failed : (state.arm number args after).2 = .ok (some report)) : report.message ≠ "" := by
  have unarmed : ∀ (middle : State) (due : DateTime),
      (middle.armFor number args due).2 = some report → report.message ≠ "" := by
    intro middle due failed
    unfold armFor at failed
    dsimp only at failed
    split at failed
    · cases failed
    · cases failed
      simp [taskReport]
  unfold arm at failed
  split at failed
  · cases failed
  · dsimp only at failed
    split at failed
    · exact unarmed _ _ (Except.ok.inj failed)
    · cases failed
      simp [taskReport]
    · split at failed
      · cases failed
      · cases failed
        simp [taskReport]

theorem triggerReport_told (trigger : Trigger) (target : Work) (stage : String)
    (failure : Failure) : (triggerReport trigger target stage failure).message ≠ "" := by
  unfold triggerReport
  simp only [ne_eq, String.append_eq_empty_iff, String.reduceEq, false_and, not_false_eq_true]

theorem GivesUp.told (gives : GivesUp state number report) : report.message ≠ "" := by
  cases gives with
  | unstarted name mode args rest value _ _ failed => exact arm_told failed
  | unarmed trigger args mode work rest outcome noted _ _ failed => exact arm_told failed
  | unseen _ _ _ _ _ _ _ _ _ same => exact same ▸ triggerReport_told _ _ _ _
  | unawaited _ _ _ _ _ _ _ _ _ _ same => exact same ▸ triggerReport_told _ _ _ _

end State

namespace Daemon

variable {state : State} {selected : List ConfiguredTask}

/-- Along a session in which tasks were started and awaited, all of them have been given up. -/
def GivenUp (first : State) (selected : List ConfiguredTask) (ended : State) : Prop :=
  ∃ past, Attended (selected.map ConfiguredTask.name) first past ended ∧
    ∀ task ∈ selected, ∃ number report, ended.find? task.name = some number ∧
      ended.BrokeOff number report ∧ report.message ≠ "" ∧
      ∃ visited ∈ past, visited.GivesUp number report

/-- A daemon whose tasks have all been given up tells all of them, and ends with one. -/
theorem GivenUp.exhausted {first : State} (given : GivenUp first selected state)
    (nonempty : selected ≠ []) : exhausted state selected =
      (state.tell .error ("Daemon exiting: no task left running (errors in " ++
        ", ".intercalate (selected.map ConfiguredTask.name) ++ ")."), 1) := by
  obtain ⟨past, -, each⟩ := given
  have all : failedTasks state selected = selected.map ConfiguredTask.name := by
    unfold failedTasks
    rw [List.filter_eq_self.mpr]
    intro task member
    obtain ⟨number, report, found, broke, text, -⟩ := each task member
    rw [found]
    dsimp only
    rw [broke.told]
    split
    · next none => cases none
    · next empty => exact absurd (Option.some.inj empty) text
    · rfl
  unfold Daemon.exhausted
  rw [all]
  cases selected with
  | nil => exact absurd rfl nonempty
  | cons task rest => rfl

theorem anyRunning_eq_false : anyRunning state selected = false ↔
    ∀ task ∈ selected, ∀ number, state.find? task.name = some number →
      (state.entry number).isRunning = false := by
  unfold anyRunning
  rw [List.any_eq_false]
  refine forall₂_congr fun task _ => ?_
  cases state.find? task.name with
  | none => simp
  | some number => simp

end Daemon

namespace Config

variable {config : Config} {setting : Setting} {failing : Nat} {pollSeconds : Int} {polls looks : Nat}
  {state seen left : State} {code : Nat}

/-! ### Polls -/

theorem watch_succ (selected : List ConfiguredTask) (pollSeconds : Int) (looks : Nat)
    (state : State) : Daemon.watch selected pollSeconds (looks + 1) state =
      match Daemon.look selected pollSeconds state with
      | (state, some ended) => (state, ended)
      | (state, none) => Daemon.watch selected pollSeconds looks state := by
  unfold Daemon.watch
  rw [Daemon.watchWith]
  obtain ⟨state, none | ended⟩ := Daemon.look selected pollSeconds state <;> rfl

/-- A watch that ends has found all tasks at rest, or was interrupted. -/
theorem Polled.ends (polled : Polled config setting failing pollSeconds polls state)
    (ended : Daemon.watch config.enabledTasks pollSeconds looks state = (left, .ok code)) :
    (∃ polls seen, Polled config setting failing pollSeconds polls seen ∧
        Daemon.anyRunning seen config.enabledTasks = false ∧
        Daemon.exhausted seen config.enabledTasks = (left, code)) ∨
      ∃ seen, config.Interrupts setting failing pollSeconds seen := by
  induction looks generalizing polls state with
  | zero => cases ended
  | succ looks ih =>
    rw [watch_succ, Daemon.look] at ended
    by_cases running : Daemon.anyRunning state config.enabledTasks = true
    · rw [if_pos running] at ended
      cases slept : (Daemon.sleep state pollSeconds).result with
      | ok value =>
        simp only [slept] at ended
        exact ih (.slept polled running slept) ended
      | error failure =>
        simp only [slept] at ended
        by_cases interrupt : failure = .interrupt
        · subst interrupt
          exact .inr ⟨state, polls, polled, running, slept⟩
        · rw [if_neg interrupt] at ended
          cases ended
    · rw [if_neg running] at ended
      cases ended
      exact .inl ⟨polls, state, polled, eq_false_of_ne_true running, rfl⟩

theorem Polled.watch (polled : Polled config setting failing pollSeconds polls seen) :
    ∃ launched, Daemon.launch (setting.machine failing) config config.enabledTasks = (launched, .ok ()) ∧
      ∀ looks, Daemon.watch config.enabledTasks pollSeconds (polls + looks) launched =
        Daemon.watch config.enabledTasks pollSeconds looks seen := by
  induction polled with
  | launched started => exact ⟨_, started, fun looks => by rw [Nat.zero_add]⟩
  | @slept polls state value polled running ended ih =>
    obtain ⟨launched, started, along⟩ := ih
    refine ⟨launched, started, fun looks => ?_⟩
    have looked : Daemon.look config.enabledTasks pollSeconds state =
        (Daemon.sleep state pollSeconds, none) := by
      simp only [Daemon.look, if_pos running, ended]
    rw [Nat.add_assoc, Nat.add_comm 1, along, watch_succ, looked]

/-- A poll that is interrupted has come to an end, cut short at the time of the interrupt, which is that
of the setting. -/
theorem Looks.isCut (looks : Looks config setting failing polls pollSeconds seen)
    (interrupted : (Daemon.sleep seen pollSeconds).result = .error .interrupt) :
    (Daemon.sleep seen pollSeconds).mainHasFinished = true ∧
      ∃ time, setting.interruptAt = some time ∧
        time ≤ seen.clock + pollSeconds * secondMicros := by
  obtain ⟨past, watched⟩ := looks.watched
  have slept := State.complete_slept watched.manned.sound looks.finished (pollSeconds * secondMicros)
  change (seen.complete (.advance (pollSeconds * secondMicros))).result = _ at interrupted
  cases slept with
  | unfinished lost =>
    have same := Except.error.inj (interrupted.symm.trans lost)
    exact absurd (congrArg Failure.kind same) (by decide)
  | whole _ _ slept => rw [interrupted] at slept; cases slept
  | cut cut finished =>
    obtain ⟨time, given, early⟩ := cut
    rw [watched.setting, (config.opened_fresh setting failing).setting_eq] at given
    exact ⟨finished, time, given, early⟩

theorem Looks.lt_looksBefore (looks : Looks config setting failing polls pollSeconds seen)
    (positive : 0 < pollSeconds) {time : Instant} (given : setting.interruptAt = some time) :
    polls + 1 < Command.looksBefore (setting.machine failing) pollSeconds := by
  have step : 0 < pollSeconds * secondMicros := Int.mul_pos positive (by decide)
  unfold Command.looksBefore
  rw [show (setting.machine failing).setting.interruptAt = some time from given]
  refine Nat.succ_lt_succ (Nat.lt_succ_of_le ?_)
  by_cases first : polls = 0
  · rw [first]
    exact Nat.zero_le _
  · have ahead := looks.uncut first time given
    have fits : (polls : Int) ≤ (time - setting.start) / (pollSeconds * secondMicros) :=
      Int.le_ediv_of_mul_le step (Int.le_sub_left_of_add_le (Int.le_of_lt ahead))
    exact (Int.le_toNat (Int.le_trans (Int.natCast_nonneg _) fits)).mpr fits

/-! ### Ends -/

theorem Looks.givenUp (looks : Looks config setting failing polls pollSeconds seen)
    (distinct : (config.tasks.map ConfiguredTask.name).Nodup)
    (rests : Daemon.anyRunning seen config.enabledTasks = false) :
    Daemon.GivenUp (config.opened setting failing) config.enabledTasks seen := by
  obtain ⟨past, watched⟩ := looks.watched
  refine ⟨past, watched.attended, fun task member => ?_⟩
  obtain ⟨number, first⟩ := opened_find? setting failing distinct member
  have found := (watched.located task.name).trans first
  have idle := Daemon.anyRunning_eq_false.mp rests task member number found
  cases watched.kept number (Daemon.mem_numbersOf.mpr ⟨task, member, first⟩) with
  | runs trigger held =>
    rw [(State.stoppable?_iff.mp held).1] at idle
    cases idle
  | broken report broke given =>
    obtain ⟨visited, among, gives⟩ := given
    exact ⟨number, report, found, broke, gives.told, visited, among, gives⟩

theorem Looks.idle (looks : Looks config setting failing polls pollSeconds seen)
    (rests : Daemon.anyRunning seen config.enabledTasks = false) (number : Nat) :
    seen.stoppable? number = none := by
  obtain ⟨past, watched⟩ := looks.watched
  refine Option.eq_none_iff_forall_ne_some.mpr fun trigger held => ?_
  have running := (State.stoppable?_iff.mp held).1
  obtain ⟨task, member, first⟩ := Daemon.mem_numbersOf.mp (watched.started number running)
  have idle := Daemon.anyRunning_eq_false.mp rests task member number
    ((watched.located task.name).trans first)
  rw [running] at idle
  cases idle

/-- When a sleep was cut short, every task that runs is stopped once. -/
theorem Looks.stopsOnce (looks : Looks config setting failing polls pollSeconds seen)
    (interrupted : (Daemon.sleep seen pollSeconds).result = .error .interrupt) {number : Nat}
    (running : ((Daemon.sleep seen pollSeconds).entry number).isRunning = true) :
    ∃ task ∈ config.enabledTasks,
      (Daemon.sleep seen pollSeconds).find? task.name = some number ∧
      ∃ trigger, Daemon.StopsOnce (Daemon.interrupted (Daemon.sleep seen pollSeconds)).1
        config.enabledTasks task.name number trigger := by
  obtain ⟨finished, -⟩ := looks.isCut interrupted
  obtain ⟨past, before⟩ := looks.watched
  obtain ⟨added, watched⟩ := before.complete_advance looks.finished (pollSeconds * secondMicros)
  change State.Watched _ _ _ _ (Daemon.sleep seen pollSeconds) at watched
  generalize Daemon.sleep seen pollSeconds = cut at running watched finished ⊢
  have covered : ∀ number, (cut.entry number).isRunning = true →
      ∃ task ∈ config.enabledTasks, cut.find? task.name = some number := by
    intro number running
    obtain ⟨task, member, first⟩ := Daemon.mem_numbersOf.mp (watched.started number running)
    exact ⟨task, member, (watched.located task.name).trans first⟩
  obtain ⟨task, member, found⟩ := covered number running
  refine ⟨task, member, found, ?_⟩
  cases watched.kept number (watched.started number running) with
  | broken report broke =>
    rw [broke.idle] at running
    cases running
  | runs trigger held =>
    have told : State.Unmoved cut (Daemon.interrupted cut).1 := .tell _ _ _
    exact ⟨trigger, Daemon.stopsOnce (watched.manned.sound.effect told.neutral.effect)
      ((watched.manned.passive finished).unmoved told) finished
      (fun other armed holds => covered other (State.stoppable?_iff.mp holds).1) member found held
      (watched.manned.unstopped number trigger)⟩

end Config

namespace Command

variable {config : Config} {setting : Setting} {failing : Nat} {pollSeconds : Int} {printed : List String}

/-- What is left by a daemon that ended of itself: all tasks were given up, and nothing was to be stopped. -/
def Exhausts (config : Config) (setting : Setting) (failing : Nat) (left : State) : Prop :=
  ∃ ended, Daemon.GivenUp (config.opened setting failing) config.enabledTasks ended ∧
    Daemon.StopsNothing (Daemon.exhausted ended config.enabledTasks).1 config.enabledTasks ∧
    left = Daemon.cleanUp (Daemon.exhausted ended config.enabledTasks).1 config.enabledTasks

/-- What is left by a daemon that was interrupted while it slept: each task that ran was stopped once. -/
structure BreaksOff (config : Config) (pollSeconds : Int) (seen left : State) : Prop where
  cleaned : left = Daemon.cleanUp (Daemon.interrupted (Daemon.sleep seen pollSeconds)).1
    config.enabledTasks
  stopped : ∀ number, ((Daemon.sleep seen pollSeconds).entry number).isRunning = true →
    ∃ task ∈ config.enabledTasks, (Daemon.sleep seen pollSeconds).find? task.name = some number ∧
      ∃ trigger, Daemon.StopsOnce (Daemon.interrupted (Daemon.sleep seen pollSeconds)).1
        config.enabledTasks task.name number trigger

/-- `EndsDuly config setting failing pollSeconds printed`: the daemon ends of itself with one, and with
130 when it is interrupted. -/
structure EndsDuly (config : Config) (setting : Setting) (failing : Nat) (pollSeconds : Int)
    (printed : List String) : Prop where
  undisturbed : setting.interruptAt = none → ∀ seen, ¬ config.Interrupts setting failing pollSeconds seen
  exhausts : (∀ seen, ¬ config.Interrupts setting failing pollSeconds seen) → ∀ console code,
    runDaemon ⟨printed, setting.machine failing⟩ config pollSeconds = (console, .ok code) →
      code = 1 ∧ Exhausts config setting failing console.state
  interrupts : 0 < pollSeconds → ∀ seen, config.Interrupts setting failing pollSeconds seen →
    ∃ console, runDaemon ⟨printed, setting.machine failing⟩ config pollSeconds = (console, .ok 130) ∧
      BreaksOff config pollSeconds seen console.state

theorem runDaemon_watches {launched : State}
    (selected : Config.select config.tasks "" false = .ok config.enabledTasks)
    (started : Daemon.launch (setting.machine failing) config config.enabledTasks = (launched, .ok ())) :
    runDaemon ⟨printed, setting.machine failing⟩ config pollSeconds =
      (⟨printed, Daemon.cleanUp (Daemon.watch config.enabledTasks pollSeconds
          (looksBefore (setting.machine failing) pollSeconds) launched).1 config.enabledTasks⟩,
        (Daemon.watch config.enabledTasks pollSeconds
          (looksBefore (setting.machine failing) pollSeconds) launched).2) := by
  unfold runDaemon
  rw [selected]
  dsimp only
  unfold Daemon.run
  rw [started]

theorem runDaemon_fails {launched : State} {failure : Failure}
    (selected : Config.select config.tasks "" false = .ok config.enabledTasks)
    (failed : Daemon.launch (setting.machine failing) config config.enabledTasks =
      (launched, .error failure)) :
    (runDaemon ⟨printed, setting.machine failing⟩ config pollSeconds).2 = .error failure := by
  unfold runDaemon
  rw [selected]
  dsimp only
  unfold Daemon.run
  rw [failed]

theorem runDaemon_ends {machine : MachineZone} {clock : Instant} {document : Value}
    (loaded : document.isLoaded = true)
    (read : Config.ofDocument clock document machine = .ok config)
    (enabled : ∃ task ∈ config.tasks, task.enabled = true) (unscripted : setting.plans = none)
    (silent : setting.sink = none) (failing : Nat) (pollSeconds : Int) (printed : List String) :
    EndsDuly config setting failing pollSeconds printed := by
  have distinct := (Config.isChecked_of_ofDocument loaded read).distinct
  have known := Config.isKnown_of_ofDocument read
  have selected := Config.select_enabled enabled
  have nonempty : config.enabledTasks ≠ [] := by
    obtain ⟨task, member, enabled⟩ := enabled
    exact List.ne_nil_of_mem (List.mem_filter.mpr ⟨member, enabled⟩)
  refine ⟨fun none seen interrupted => ?_, fun undisturbed console code ended => ?_,
    fun positive seen interrupted => ?_⟩
  · obtain ⟨polls, polled, -, cut⟩ := interrupted
    obtain ⟨-, time, given, -⟩ := (polled.looks distinct known unscripted silent).isCut cut
    rw [none] at given
    cases given
  · cases launched : Daemon.launch (setting.machine failing) config config.enabledTasks with
    | mk first result =>
    cases result with
    | error failure =>
      have failed : (runDaemon ⟨printed, setting.machine failing⟩ config pollSeconds).2 = _ :=
        runDaemon_fails selected launched
      rw [ended] at failed
      cases failed
    | ok =>
      rw [runDaemon_watches selected launched] at ended
      generalize watched : Daemon.watch config.enabledTasks pollSeconds
        (looksBefore (setting.machine failing) pollSeconds) first = result at ended
      obtain ⟨left, reached⟩ := result
      cases ended
      obtain ⟨polls, seen, polled, rests, exhausted⟩ | ⟨seen, interrupted⟩ :=
        (Config.Polled.launched launched).ends watched
      · have looks := polled.looks distinct known unscripted silent
        have given := looks.givenUp distinct rests
        have same := given.exhausted nonempty
        refine ⟨congrArg Prod.snd (exhausted.symm.trans same), seen, given, ?_, by rw [exhausted]⟩
        rw [same]
        refine Daemon.stopsNothing (fun number => ?_) _
        exact looks.idle rests number
      · exact absurd interrupted (undisturbed seen)
  · obtain ⟨polls, polled, running, cut⟩ := interrupted
    have looks := polled.looks distinct known unscripted silent
    obtain ⟨-, time, given, -⟩ := looks.isCut cut
    obtain ⟨further, enough⟩ := Nat.exists_eq_add_of_lt (looks.lt_looksBefore positive given)
    obtain ⟨first, launched, along⟩ := polled.watch
    have watched : Daemon.watch config.enabledTasks pollSeconds
        (looksBefore (setting.machine failing) pollSeconds) first =
        ((Daemon.interrupted (Daemon.sleep seen pollSeconds)).1, .ok 130) := by
      have looked : Daemon.look config.enabledTasks pollSeconds seen =
          ((Daemon.interrupted (Daemon.sleep seen pollSeconds)).1, some (.ok 130)) := by
        simp only [Daemon.look, if_pos running, cut, if_true]
        rfl
      rw [enough, Nat.add_assoc, Nat.add_assoc, along, Nat.add_comm 1, Config.watch_succ, looked]
    refine ⟨_, (runDaemon_watches selected launched).trans (by rw [watched]), rfl, ?_⟩
    exact fun number runs => looks.stopsOnce cut runs

section Plain

def secondDay (interruptAt : Option Instant) : Setting :=
  { Setting.ofRules dayMicros .universal with interruptAt }

def isInterrupted : Signal → Bool
  | .ok _ => false
  | .error failure => decide (failure = .interrupt)

theorem eq_of_isInterrupted {signal : Signal} (interrupted : isInterrupted signal = true) :
    signal = .error .interrupt := by
  cases signal with
  | ok value => cases interrupted
  | error failure => rw [of_decide_eq_true interrupted]

/-- A daemon whose only task cannot be armed ends with one. Where it can be, the daemon waits for the
first run, and may be interrupted. -/
theorem runDaemon_ends_echo :
    ∃ config, Config.ofDocument dayMicros (Config.ofTasks (.mapping Config.echoEvery) []) =
        .ok config ∧
      (∃ console, runDaemon ⟨[], (secondDay none).machine 1⟩ config 1 = (console, .ok 1) ∧
        Exhausts config (secondDay none) 1 console.state) ∧
      ∃ seen console, config.Interrupts (secondDay (some (dayMicros + 1))) 0 1 seen ∧
        runDaemon ⟨[], (secondDay (some (dayMicros + 1))).machine 0⟩ config 1 =
          (console, .ok 130) ∧
        BreaksOff config 1 seen console.state ∧
        ∃ number, ((Daemon.sleep seen 1).entry number).isRunning = true := by
  have parsed : (Config.ofDocument dayMicros
      (Config.ofTasks (.mapping Config.echoEvery) [])).toOption.isSome = true := by decide +kernel
  cases read : Config.ofDocument dayMicros (Config.ofTasks (.mapping Config.echoEvery) []) with
  | error error => rw [read] at parsed; cases parsed
  | ok config =>
    have tested : ∀ test : Config → Bool, (Config.ofDocument dayMicros
        (Config.ofTasks (.mapping Config.echoEvery) [])).toOption.any test = true →
          test config = true := by
      rw [read]
      exact fun _ passes => passes
    have enabled := List.any_eq_true.mp
      (tested (fun config => config.tasks.any ConfiguredTask.enabled) (by decide +kernel))
    refine ⟨config, rfl, ?_, ?_⟩
    · have duly : EndsDuly config (secondDay none) 1 1 [] :=
        runDaemon_ends (by decide) read enabled rfl rfl 1 1 []
      have returns := tested (fun config => (runDaemon ⟨[], (secondDay none).machine 1⟩ config
        1).2.toOption.isSome) (by decide +kernel)
      cases ended : runDaemon ⟨[], (secondDay none).machine 1⟩ config 1 with
      | mk console result =>
      cases result with
      | error failure => rw [ended] at returns; cases returns
      | ok code =>
        obtain ⟨rfl, exhausts⟩ := duly.exhausts (duly.undisturbed rfl) console code ended
        exact ⟨console, rfl, exhausts⟩
    · have duly : EndsDuly config (secondDay (some (dayMicros + 1))) 0 1 [] :=
        runDaemon_ends (by decide) read enabled rfl rfl 0 1 []
      have launches := tested (fun config => (Daemon.launch ((secondDay (some
        (dayMicros + 1))).machine 0) config config.enabledTasks).2.toOption.isSome) (by decide +kernel)
      have waits := tested (fun config => Daemon.anyRunning (Daemon.launch ((secondDay (some
        (dayMicros + 1))).machine 0) config config.enabledTasks).1 config.enabledTasks)
        (by decide +kernel)
      have cut := tested (fun config => isInterrupted (Daemon.sleep (Daemon.launch ((secondDay (some
        (dayMicros + 1))).machine 0) config config.enabledTasks).1 1).result) (by decide +kernel)
      have running := tested (fun config => ((Daemon.sleep (Daemon.launch ((secondDay (some
        (dayMicros + 1))).machine 0) config config.enabledTasks).1 1).entry 0).isRunning)
        (by decide +kernel)
      cases started : Daemon.launch ((secondDay (some (dayMicros + 1))).machine 0) config
          config.enabledTasks with
      | mk seen result =>
      rw [started] at launches waits cut running
      cases result with
      | error failure => cases launches
      | ok =>
        have interrupts : config.Interrupts (secondDay (some (dayMicros + 1))) 0 1 seen :=
          ⟨0, .launched started, waits, eq_of_isInterrupted cut⟩
        obtain ⟨console, ended, broken⟩ := duly.interrupts (by decide) seen interrupts
        exact ⟨seen, console, interrupts, ended, broken, 0, running⟩

end Plain

end Command

end Timetable
