import Timetable.Proofs.Daemon.Asleep
import Timetable.Proofs.Daemon.Punctual

/-! Tasks that are started are kept.

A task that was started runs, and holds a trigger, until its chain is given up: since no run could be
planned or armed, or the time of one could not be waited for. From then on it is idle, and shows the error.
-/

set_option autoImplicit false

namespace Timetable

namespace State

variable {names : List String} {state later next : State} {agent : Agent} {number trigger : Nat}
  {frame : Frame} {rest : List Frame} {signal : Signal} {move : Move} {past : List State}
  {report : Report}

/-! ### Firings that fail -/

/-- Above the end of a run there is nothing but the call of the function. -/
theorem not_dispatched_above {upper below : List Frame} {args : List Value} {mode : Mode}
    {work called : Work} (brief : ∀ frame ∈ upper, frame.isBrief = true) :
    upper ++ .fired number trigger args mode work :: rest ≠ .dispatched trigger called :: below := by
  intro stacked
  cases upper with
  | nil => cases stacked
  | cons top upper =>
    have short := brief top List.mem_cons_self
    rw [(List.cons.inj stacked).1] at short
    cases short

/-- The end of a run fails where clocks show no time, and then nothing is armed. -/
theorem endRun_founders (sound : Sound state) (unscripted : state.setting.plans = none)
    (owned : state.owner trigger = some number) (held : state.stoppable? number = some trigger)
    {args : List Value} {mode : Mode} {work : Work} {failure : Failure}
    (ended : (later, move) = state.endRun number trigger args mode work signal)
    (failed : move.signal = .error failure) :
    move = .fail failure ∧ (∃ fault, failure = fault.failure ∧ state.now = .error fault) ∧
      Noted number state later := by
  obtain ⟨reported, noted, counted, same⟩ := state.endRun_eq number trigger args mode work signal
  have neutral := counted.neutral
  have kept : noted.stoppable? number = some trigger := (neutral.stoppable? number).trans held
  have arming := arm_arming noted number (nextArgs mode args signal) (state.trigger trigger).due
  rw [same, goOn, if_pos (stoppable?_iff.mp kept)] at ended
  generalize noted.arm number (nextArgs mode args signal) (state.trigger trigger).due =
    result at ended arming
  obtain ⟨reached, other | done⟩ := result
  · obtain ⟨rfl, rfl⟩ := Prod.mk.inj ended
    cases failed
    rcases arming.armed_or (neutral.setting ▸ unscripted)
        (Nat.lt_of_lt_of_le (sound.linked.range trigger number owned) neutral.entries)
        (stoppable?_iff.mp kept).1 with
      ⟨fault, blind, failed, rfl⟩ | ⟨done, -⟩ | ⟨report, done, -⟩
    · exact ⟨rfl, ⟨fault, Except.error.inj failed, counted.unmoved.1.symm.trans blind⟩, counted⟩
    · cases done
    · cases done
  · obtain ⟨-, rfl⟩ := Prod.mk.inj ended
    cases failed

/-- A failure comes out of a firing of a task where clocks show no time at the end of the run. -/
theorem Serves.founders (serves : Serves number trigger (state.standing number trigger))
    (sound : Sound state) (unscripted : state.setting.plans = none)
    (owned : state.owner trigger = some number) (held : state.stoppable? number = some trigger)
    (prompt : ∀ args rest signal, state.active =
      some ⟨.thread trigger, .call (.fire number trigger) args :: rest, signal⟩ →
        ∃ time, state.now = .ok time)
    (active : state.active = some ⟨.thread trigger, frame :: rest, signal⟩) {task : Nat}
    {below : List Frame} {failure : Failure}
    (stacked : (state.answer (.thread trigger) signal frame).2.frames ++ rest =
      .dispatched trigger (.fire task trigger) :: below)
    (failed : (state.answer (.thread trigger) signal frame).2.signal = .error failure)
    (mild : failure.leaves = false) :
    task = number ∧ (∃ fault, failure = fault.failure ∧ state.now = .error fault) ∧
      (∃ args mode work rest, state.active =
        some ⟨.thread trigger, .fired number trigger args mode work :: rest, signal⟩) ∧
      Noted number state (state.answer (.thread trigger) signal frame).1 := by
  have reply := (sound.replied active).reply
  have stack : (state.standing number trigger).stack = frame :: rest := stackOf_active active
  have given : (state.standing number trigger).signal = signal := signalOf_active active
  have brief := fun short => (@answer_brief state trigger frame short signal).2
  generalize (state.answer (.thread trigger) signal frame).1 = later at reply ⊢
  generalize (state.answer (.thread trigger) signal frame).2 = move at reply stacked failed brief
  cases serves with
  | waits first value counts same ok undecided =>
    obtain ⟨rfl, rfl⟩ := List.cons.inj (stack.symm.trans same)
    obtain rfl := given.symm.trans ok
    cases reply.counted counts with
    | waits => cases failed
    | proceeds => cases failed
    | obeys => cases failed
    | cancelled => cases failed
    | breaks fault =>
      obtain ⟨report, text, -, complained⟩ := complain_owned
        ((owner_commit state trigger .cancel none trigger).trans owned)
        (state.trigger trigger).work "waiting for" fault.failure
      rw [complained] at failed
      cases failed
  | calls args value same ok =>
    obtain ⟨rfl, rfl⟩ := List.cons.inj (stack.symm.trans same)
    obtain rfl := given.symm.trans ok
    rcases reply.of_fire with ⟨fault, blind, -, -⟩ | ⟨time, -, -, rfl⟩
    · obtain ⟨time, seen⟩ := prompt _ _ _ active
      rw [seen] at blind
      cases blind
    · cases failed
  | runs above args mode work all same =>
    cases above with
    | cons first above =>
      obtain ⟨rfl, rfl⟩ := List.cons.inj (stack.symm.trans same)
      rw [List.append_eq, ← List.append_assoc] at stacked
      refine absurd stacked (not_dispatched_above fun other member => ?_)
      rcases List.mem_append.mp member with added | left
      · exact brief (all frame List.mem_cons_self) other added
      · exact all other (List.mem_cons_of_mem _ left)
    | nil =>
      obtain ⟨rfl, rfl⟩ := List.cons.inj (stack.symm.trans same)
      rcases reply.of_fired with ⟨other, -, leaves, -, rfl⟩ | ended
      · cases failed
        rw [leaves] at mild
        cases mild
      · obtain ⟨rfl, blind, counted⟩ := endRun_founders sound unscripted owned held ended failed
        cases stacked
        exact ⟨rfl, blind, ⟨args, mode, work, _, active⟩, counted⟩
  | fails failure same wrong =>
    obtain ⟨rfl, rfl⟩ := List.cons.inj (stack.symm.trans same)
    obtain rfl := given.symm.trans wrong
    rcases reply.of_dispatched with ⟨value, done, -⟩ | ⟨other, -, ⟨leaves, -, rfl⟩ | ⟨-, complained⟩⟩
    · cases done
    · cases stacked
    · obtain ⟨report, text, -, same⟩ :=
        complain_owned owned (.fire number trigger) "running" other
      rw [same] at complained
      obtain ⟨-, rfl⟩ := Prod.mk.inj complained
      cases failed

/-- Where a firing is about to end the chain of its task, no time could be shown at the end of the run. -/
theorem Manned.foretells (manned : Manned names state) (punctual : Punctual state)
    (stepped : state.step = some next) (founders : next.Founders number report) :
    state.GivesUp number report := by
  obtain ⟨trigger, below, failure, active, mild, rfl⟩ := founders
  have sound := manned.sound
  have stack := stackOf_active active
  have failed := signalOf_active active
  -- A runner that has just come to run is not resumed with a failure.
  have fresh : ∀ {agent : Agent} {stack : List Frame}, Turns state next agent stack (.ok .null) →
      state.signalOf (.thread trigger) = .ok .null ∨ agent = .thread trigger → False := by
    intro agent stack turns calm
    by_cases own : agent = .thread trigger
    · subst own
      cases failed.symm.trans turns.signal
    · have calm := calm.resolve_right own
      rw [← turns.otherSignals _ (Ne.symm own)] at calm
      cases failed.symm.trans calm
  cases step_advance sound.awake stepped with
  | passes agent idle turns => exact (fresh turns (.inl (signalOf_none idle))).elim
  | ends agent signal running turns =>
    refine (fresh turns ?_).elim
    by_cases own : agent = .thread trigger
    · exact .inr own
    · exact .inl (signalOf_other running (Ne.symm own))
  | answers agent frame rest signal running same =>
    have replied := sound.replied_step running stepped
    have turns := replied.turns
    by_cases own : agent = .thread trigger
    · subst own
      obtain ⟨task, owned, started⟩ := manned.owner_active running
      rw [turns.stack] at stack
      rw [turns.signal] at failed
      rcases manned.manned task trigger owned started with ⟨serves, held⟩ | concludes
      · obtain ⟨rfl, ⟨fault, rfl, blind⟩, ⟨args, mode, work, rest, ending⟩, counted⟩ :=
          serves.founders sound manned.unscripted owned held
            (fun _ _ _ active => punctual.prompt _ _ _ _ _ active) running stack failed mild
        refine .unseen trigger args mode work rest signal fault ending blind ?_
        rw [turns.toShift.trigger, counted.neutral.owned trigger number owned]
        rfl
      · obtain ⟨value, rfl, last, -⟩ := concludes.active running
        rw [(answer_last (.thread trigger) manned.silent last value).2] at failed
        cases failed
    · have grows := replied.reply.grows sound.linked
      have calm := signalOf_other (grows.active.trans running) (Ne.symm own)
      rw [← turns.otherSignals _ (Ne.symm own)] at calm
      cases failed.symm.trans calm

/-! ### Tasks that were started -/

/-- `Kept number past state`: a task that was started runs and holds a trigger, or its chain was given up
in a step from one of the states of the past. -/
inductive Kept (number : Nat) (past : List State) (state : State) : Prop where
  | runs (trigger : Nat) : state.stoppable? number = some trigger → Kept number past state
  | broken (report : Report) : BrokeOff state number report →
      (∃ visited ∈ past, visited.GivesUp number report) → Kept number past state

namespace Kept

theorem congr (kept : Kept number past state) (same : next.entry number = state.entry number)
    {more : List State} (longer : ∀ visited ∈ past, visited ∈ more) : Kept number more next := by
  cases kept with
  | runs trigger held => exact .runs trigger ((stoppable?_congr same).trans held)
  | broken report broke given =>
    obtain ⟨visited, member, gives⟩ := given
    exact .broken report ⟨same ▸ broke.idle, same ▸ broke.told⟩ ⟨visited, longer visited member, gives⟩

theorem step (kept : Kept number past state) (manned : Manned names state)
    (foretold : ∀ report, state.Founders number report →
      ∃ visited ∈ past, visited.GivesUp number report)
    (unasked : ∀ frame ∈ state.stackOf .main, frame.attends [] = true)
    (stepped : state.step = some next) : Kept number (state :: past) next := by
  have longer : ∀ visited ∈ past, visited ∈ state :: past :=
    fun visited member => List.mem_cons_of_mem _ member
  have sound := manned.sound
  cases step_advance sound.awake stepped with
  | passes agent idle turns => exact kept.congr (turns.toShift.entry number) longer
  | ends agent signal active turns => exact kept.congr (turns.toShift.entry number) longer
  | answers agent frame rest signal active same =>
    have replied := sound.replied_step active stepped
    have entry := replied.turns.toShift.entry number
    cases agent with
    | main =>
      have attends := unasked frame (by rw [stackOf_active active]; exact List.mem_cons_self)
      rcases (answer_main manned.silent attends signal).2 with
        tells | ⟨_, _, _, _, _, -, -, asked, -⟩
      · exact kept.congr (entry.trans (tells.unmoved.entry number)) longer
      · cases asked
    | thread trigger =>
      obtain ⟨task, owned, started⟩ := manned.owner_active active
      rcases manned.manned task trigger owned started with ⟨serves, held⟩ | concludes
      · by_cases own : number = task
        · subst own
          cases manned.onward active owned serves held with
          | serves _ held => exact .runs trigger ((stoppable?_congr entry).trans held)
          | retires armed _ held => exact .runs armed ((stoppable?_congr entry).trans held)
          | ends report _ broke why =>
            refine .broken report ⟨entry ▸ broke.idle, entry ▸ broke.told⟩ ?_
            rcases why with gives | founders
            · exact ⟨state, List.mem_cons_self, gives⟩
            · obtain ⟨visited, member, gives⟩ := foretold report founders
              exact ⟨visited, longer visited member, gives⟩
        · have inside : Local task state (state.answer (.thread trigger) signal frame).1 :=
            serves.local owned (stackOf_active active) (signalOf_active active)
              (sound.replied active).reply fun short => (answer_brief short signal).1
          exact kept.congr (entry.trans (inside.others number own)) longer
      · obtain ⟨value, rfl, last, -⟩ := concludes.active active
        exact kept.congr (entry.trans
          ((answer_last _ manned.silent last value).1.unmoved.entry number)) longer

end Kept

theorem Manned.idle_step (manned : Manned names state)
    (unasked : ∀ frame ∈ state.stackOf .main, frame.attends [] = true)
    (stepped : state.step = some next) (idle : (state.entry number).isRunning = false) :
    (next.entry number).isRunning = false := by
  have sound := manned.sound
  cases step_advance sound.awake stepped with
  | passes agent _ turns => rw [turns.toShift.entry, idle]
  | ends agent signal _ turns => rw [turns.toShift.entry, idle]
  | answers agent frame rest signal active same =>
    rw [(sound.replied_step active stepped).turns.toShift.entry]
    rcases manned.acting active with tells | ⟨task, inside, -, own⟩
    · rw [tells.unmoved.entry, idle]
    by_cases other : number = task
    · subst other
      rcases own with ⟨rfl, -⟩ | ⟨trigger, -, held⟩
      · have attends := unasked frame (by rw [stackOf_active active]; exact List.mem_cons_self)
        rcases (answer_main manned.silent attends signal).2 with
          tells | ⟨_, _, _, _, _, -, -, asked, -⟩
        · rw [tells.unmoved.entry, idle]
        · cases asked
      · rw [(stoppable?_iff.mp held).1] at idle
        cases idle
    · rw [inside.others number other, idle]

theorem Manned.find?_step (manned : Manned names state) (stepped : state.step = some next)
    (name : String) : next.find? name = state.find? name := by
  have sound := manned.sound
  cases step_advance sound.awake stepped with
  | passes agent idle turns => exact turns.toShift.find? name
  | ends agent signal active turns => exact turns.toShift.find? name
  | answers agent frame rest signal active _ =>
    obtain ⟨task, inside⟩ := manned.local_active active
    exact ((sound.replied_step active stepped).turns.toShift.find? name).trans (inside.find? name)

theorem issue_start_step {name : String} (found : state.find? name = some number) (mode : Mode)
    (args : List Value) : (state.issue (.start name mode args)).step =
      some (((state.issue (.start name mode args)).startChain number mode args).1.make .main []
        ((state.issue (.start name mode args)).startChain number mode args).2) := by
  have located : (state.issue (.start name mode args)).find? name = some number := found
  have started : (state.issue (.start name mode args)).startNamed name mode args =
      (state.issue (.start name mode args)).startChain number mode args := by
    simp only [startNamed, located]
  rw [← started]
  rfl

theorem closes_begun {armed : State} (silent : armed.setting.sink = none)
    (running : armed.main = .running) (number : Nat) (report : Option Report) :
    Closes ((begun number (armed, .ok report)).1.make .main []
      (begun number (armed, .ok report)).2) := by
  refine .tells (reportFrames report ++ [.give (.bool (armed.entry number).isRunning)]) (.ok .null)
    silent running (by rw [← List.append_nil (_ ++ [_])]; rfl) fun frame member => ?_
  rcases List.mem_append.mp member with member | member
  · rw [reportFrames_eq] at member
    obtain ⟨told, -, rfl⟩ := List.mem_map.mp member
    rfl
  · rw [List.mem_singleton.mp member]
    rfl

/-- `Watched names first numbers past state`: in a session in which tasks of some names are started and
awaited, the tasks of some numbers have been started, and the main program is not about to start any. -/
structure Watched (names : List String) (first : State) (numbers : List Nat) (past : List State)
    (state : State) : Prop where
  attended : Attended names first past state
  manned : Manned names state
  punctual : Punctual state
  setting : state.setting = first.setting
  known : state.setting.zone.IsKnown
  clock : first.clock ≤ state.clock
  located : ∀ name, state.find? name = first.find? name
  foretold : ∀ number report, state.Founders number report →
    ∃ visited ∈ past, visited.GivesUp number report
  unasked : ∀ frame ∈ state.stackOf .main, frame.attends [] = true
  started : ∀ number, (state.entry number).isRunning = true → number ∈ numbers
  kept : ∀ number ∈ numbers, Kept number past state

namespace Watched

variable {first : State} {numbers : List Nat}

theorem step (watched : Watched names first numbers past state)
    (stepped : state.step = some next) : Watched names first numbers (state :: past) next where
  attended := watched.attended.step stepped
  manned := watched.manned.step stepped
  punctual := watched.punctual.step watched.manned watched.known stepped
  setting := (watched.manned.sound.setting_eq stepped).trans watched.setting
  known := by rw [watched.manned.sound.setting_eq stepped]; exact watched.known
  clock := Int.le_trans watched.clock (watched.manned.sound.clock_le stepped)
  located name := (watched.manned.find?_step stepped name).trans (watched.located name)
  foretold _ _ founders :=
    ⟨state, List.mem_cons_self, watched.manned.foretells watched.punctual stepped founders⟩
  unasked := watched.manned.sound.attends_step watched.manned.silent watched.unasked stepped
  started number running := by
    refine watched.started number ?_
    by_contra idle
    rw [watched.manned.idle_step watched.unasked stepped (Bool.not_eq_true _ ▸ idle)] at running
    cases running
  kept number member := (watched.kept number member).step watched.manned
    (watched.foretold number) watched.unasked stepped

theorem runUntil (stops : State → Bool) : ∀ (fuel : Nat) {past : List State} {state : State},
    Watched names first numbers past state →
      ∃ added, Watched names first numbers (added ++ past) (state.runUntil stops fuel)
  | 0, _, _, watched => ⟨[], watched⟩
  | fuel + 1, past, state, watched => by
    unfold State.runUntil
    split
    · exact ⟨[], watched⟩
    · split
      · exact ⟨[], watched⟩
      · next next stepped =>
        obtain ⟨added, along⟩ := runUntil stops fuel (watched.step stepped)
        exact ⟨added ++ [state], by rwa [List.append_assoc]⟩

theorem wait (watched : Watched names first numbers past state)
    (finished : state.mainHasFinished = true) (micros : Int) :
    Watched names first numbers (state :: past) (state.issue (.advance micros)) where
  attended := watched.attended.issue _ finished rfl
  manned := watched.manned.issue finished rfl
  punctual := watched.punctual.issue finished _
  setting := watched.setting
  known := watched.known
  clock := watched.clock
  located := watched.located
  foretold _ _ founders := by
    obtain ⟨_, _, _, ⟨⟩, -⟩ := founders
  unasked frame member := by
    rw [List.mem_singleton.mp (show frame ∈ [Frame.perform (.advance micros)] from member)]
    rfl
  started := watched.started
  kept number member := (watched.kept number member).congr
    (show (state.issue (.advance micros)).entry number = state.entry number from rfl)
    fun _ member => List.mem_cons_of_mem _ member

/-- Once a task was started, it is among those that are kept. -/
theorem begins (watched : Watched names first numbers past state)
    (finished : state.mainHasFinished = true) {name : String} (named : name ∈ names) {mode : Mode}
    {args : List Value} (stepped : (state.issue (.start name mode args)).step = some next)
    (others : ∀ task, task ≠ number → next.entry task = state.entry task)
    (unasked : ∀ frame ∈ next.stackOf .main, frame.attends [] = true)
    (kept : Kept number (state.issue (.start name mode args) :: state :: past) next) :
    Watched names first (number :: numbers) (state.issue (.start name mode args) :: state :: past)
      next := by
  have attends : Operation.attends names (.start name mode args) = true := decide_eq_true named
  have manned := watched.manned.issue finished attends
  have punctual := watched.punctual.issue finished (.start name mode args)
  refine {
    attended := (watched.attended.issue _ finished attends).step stepped
    manned := manned.step stepped
    punctual := punctual.step manned watched.known stepped
    setting := (manned.sound.setting_eq stepped).trans watched.setting
    known := by rw [manned.sound.setting_eq stepped]; exact watched.known
    clock := Int.le_trans watched.clock (manned.sound.clock_le stepped)
    located := fun other => (manned.find?_step stepped other).trans (watched.located other)
    foretold := fun _ _ founders =>
      ⟨_, List.mem_cons_self, manned.foretells punctual stepped founders⟩
    unasked
    started := fun task runs => ?started
    kept := fun task among => ?kept }
  case started =>
    by_cases own : task = number
    · exact own ▸ List.mem_cons_self
    · rw [others task own] at runs
      exact List.mem_cons_of_mem _ (watched.started task runs)
  case kept =>
    by_cases own : task = number
    · exact own ▸ kept
    · exact (watched.kept task ((List.mem_cons.mp among).resolve_left own)).congr (others task own)
        fun _ member => List.mem_cons_of_mem _ (List.mem_cons_of_mem _ member)

/-- A task is started: it is kept from then on, or the start fails. -/
theorem start (watched : Watched names first numbers past state)
    (finished : state.mainHasFinished = true) {name : String} (named : name ∈ names)
    (found : state.find? name = some number) (idle : (state.entry number).isRunning = false)
    (mode : Mode) (args : List Value) :
    ∃ next, (state.issue (.start name mode args)).step = some next ∧
      (Watched names first (number :: numbers)
          (state.issue (.start name mode args) :: state :: past) next ∧ Closes next ∨
        ∃ failure, next.main = .running ∧ next.active = some ⟨.main, [], .error failure⟩) := by
  have stepped := issue_start_step found mode args
  have kept := @begins names state _ number past first numbers watched finished name named mode args
    stepped
  refine ⟨_, stepped, ?_⟩
  have entries : ∀ task, (state.issue (.start name mode args)).entry task = state.entry task :=
    fun _ => rfl
  have silent : (state.issue (.start name mode args)).setting.sink = none := watched.manned.silent
  have unscripted : ((state.issue (.start name mode args)).updateEntry number
      fun entry => entry.begin mode).setting.plans = none := watched.manned.unscripted
  have given := fun report => @GivesUp.unstarted (state.issue (.start name mode args)) number report
    name mode args [] .null rfl found
  have within : number < (state.issue (.start name mode args)).entries.size :=
    watched.manned.sound.linked.tidy.range number (find?_mem found).1
  have inside := @startChain_local number (state.issue (.start name mode args)) mode args
    (find?_mem found).1 idle
  have running : (state.issue (.start name mode args)).main = .running := rfl
  have unasked := @startChain_attends [] (state.issue (.start name mode args)) number mode args
  have chain := @startChain_begun number (state.issue (.start name mode args)) idle mode args
  generalize state.issue (.start name mode args) = issued at *
  have begins : ((issued.updateEntry number fun entry => entry.begin mode).entry
      number).isRunning = true := by
    rw [entry_begin within]
    rfl
  have arming := arm_arming (issued.updateEntry number fun entry => entry.begin mode) number args
    none
  generalize (issued.updateEntry number fun entry => entry.begin mode).arm number args none =
    made at arming given chain
  obtain ⟨armed, result⟩ := made
  rw [chain] at inside kept unasked ⊢
  -- A start that does not fail leaves the task running or gives it up, and puts no start in its place.
  have succeeds : ∀ {report : Option Report}, result = .ok report →
      Kept number (issued :: state :: past) armed →
        Watched names first (number :: numbers) (issued :: state :: past)
          ((begun number (armed, result)).1.make .main [] (begun number (armed, result)).2) ∧
        Closes ((begun number (armed, result)).1.make .main [] (begun number (armed, result)).2) := by
    rintro report rfl held
    refine ⟨kept (fun task other => ?_) (fun frame added => ?_) (held.congr (by rfl) fun _ => id),
      closes_begun ((congrArg Setting.sink inside.setting).trans silent)
        (inside.main.trans running) number report⟩
    · rw [← entries, ← inside.others task other]
      rfl
    · refine unasked frame ((List.mem_append.mp ?_).resolve_right List.not_mem_nil)
      exact added
  rcases arming.armed_or unscripted (by rwa [State.updateEntry, Store.size_update]) begins with
    ⟨fault, -, rfl, -⟩ | ⟨rfl, held⟩ | ⟨report, rfl, broke⟩
  · exact .inr ⟨fault.failure, inside.main.trans running, rfl⟩
  · exact .inl (succeeds rfl (.runs _ held))
  · exact .inl (succeeds rfl (.broken report broke ⟨issued, List.mem_cons_self, given report rfl⟩))

end Watched

end State

end Timetable
