import Timetable.Proofs.Daemon.Asleep

/-! Machines in which nothing is asked of tasks.

Where no program is about to perform an operation, and no work of a task and no callback of a stop
leads to one, none is performed later. Chains that are under way go on or come to their end, but no
stop is issued.
-/

set_option autoImplicit false

namespace Timetable

def Work.isPassive : Work → Bool
  | .script _ _ _ | .resume _ _ _ => false
  | _ => true

def Frame.isPassive : Frame → Bool
  | .perform _ | .script _ _ _ _ => false
  | .call work _ | .callback _ work _ => work.isPassive
  | _ => true

theorem Frame.not_isRequest_of_isPassive {frame : Frame} (passive : frame.isPassive = true) :
    frame.isRequest = false := by
  cases frame with
  | perform => cases passive
  | call work args => cases work <;> first | rfl | cases passive
  | _ => rfl

def Move.IsPassive (move : Move) : Prop :=
  ∀ added ∈ move.frames, added.isPassive = true

namespace Move.IsPassive

theorem resume (signal : Signal) : (Move.resume [] signal).IsPassive :=
  fun _ member => absurd member List.not_mem_nil

theorem pair {first second : Frame} (one : first.isPassive = true)
    (other : second.isPassive = true) : (Move.go [first, second]).IsPassive :=
  List.forall_mem_cons.mpr ⟨one, List.forall_mem_singleton.mpr other⟩

theorem reports (reports : List Report) : (Move.go (reports.map Frame.report)).IsPassive := by
  intro added member
  obtain ⟨report, -, rfl⟩ := List.mem_map.mp member
  rfl

end Move.IsPassive

namespace State

variable {names : List String} {state later next : State} {agent : Agent} {number trigger : Nat}
  {frame : Frame} {rest : List Frame} {signal : Signal} {move : Move}

structure Passive (state : State) : Prop where
  silent : state.setting.sink = none
  works : ∀ number, (state.entry number).work.isPassive = true
  callbacks : ∀ number trigger callback,
    (state.entry number).stopCallback? trigger = some callback → callback.isPassive = true
  owned : ∀ trigger, state.isStarted trigger = true → ∃ task, state.owner trigger = some task
  frames : ∀ agent, ∀ frame ∈ state.stackOf agent, frame.isPassive = true

/-! ### Answers -/

theorem sleep_passive {micros : Int} {frames : List Frame}
    (passive : ∀ added ∈ frames, added.isPassive = true) :
    (state.sleep agent micros frames).IsPassive := by
  unfold sleep
  dsimp only
  split
  · split
    · exact List.forall_mem_singleton.mpr rfl
    · exact passive
  · exact passive

theorem join_passive {timeout : Option Int} {frames : List Frame}
    (passive : ∀ added ∈ frames, added.isPassive = true) :
    (state.join agent trigger timeout frames).IsPassive := by
  unfold join
  dsimp only
  split
  · split
    · exact .resume _
    · exact passive
    · split
      · exact .resume _
      · split
        · exact passive
        · split <;> exact passive
  · exact passive

theorem handle_passive {failure : Failure} (common : frame.isCommon = true) :
    (state.handle failure frame).2.IsPassive := by
  unfold handle
  split
  · split
    · split <;> exact .resume _
    · exact .resume _
  · split
    · cases common
    · exact .resume _
    · exact .resume _
    · cases common
    · cases common
    · exact .resume _

/-- A passive frame that anyone may have asks for none but passive frames. -/
theorem answer_passive (silent : state.setting.sink = none) (passive : frame.isPassive = true)
    (common : frame.isCommon = true) (signal : Signal) :
    (state.answer agent signal frame).2.IsPassive := by
  cases signal with
  | error failure => exact handle_passive common
  | ok value =>
    cases frame with
    | call work args =>
      cases work with
      | library called =>
        show (state.callLibrary agent called args).2.IsPassive
        unfold callLibrary
        dsimp only
        split
        · exact .resume _
        · exact sleep_passive (List.forall_mem_singleton.mpr rfl)
        · exact .resume _
      | plain value => exact .resume _
      | nothing => exact .resume _
      | logPending name => exact .resume _
      | script | resume => cases passive
      | fire | settle => cases common
    | report report =>
      rw [(answer_last agent silent (show (Frame.report report).isLast = true from rfl) value).2]
      exact .resume _
    | joining triggers timeout stopped =>
      cases triggers with
      | nil => exact .resume _
      | cons trigger rest => exact join_passive (List.forall_mem_singleton.mpr rfl)
    | perform | script => cases passive
    | countdown | waited | dispatched | fired | callback | calledBack => cases common
    | woke | inner | give | sunk | interrupted => exact .resume _

theorem not_stopped_mem_frameDeeds (passive : frame.isPassive = true) (callback : Work) :
    .stopped number trigger callback ∉ state.frameDeeds agent signal frame := by
  unfold frameDeeds
  split
  · cases passive
  · cases passive
  · simp
  · simp
  · split <;> simp
  · exact List.not_mem_nil

theorem callbackFrames_passive {callback : Option Work}
    (passive : ∀ work, callback = some work → work.isPassive = true) (task : Nat)
    (args : List Value) :
    ∀ added ∈ callbackFrames task callback args, added.isPassive = true := by
  intro added member
  unfold callbackFrames at member
  obtain ⟨work, found, rfl⟩ := Option.map_eq_some_iff.mp (Option.mem_toList.mp member)
  exact passive work found

theorem complain_passive (owned : state.owner trigger = some number)
    (passive : ∀ work, (state.entry number).stopCallback? trigger = some work →
      work.isPassive = true) (target : Work) (stage : String) (failure : Failure) :
    (state.complain trigger target stage failure).2.IsPassive := by
  obtain ⟨report, text, -, complained⟩ := complain_owned owned target stage failure
  rw [complained]
  intro added member
  rcases List.mem_append.mp member with member | member
  · rcases List.mem_cons.mp member with rfl | member
    · rfl
    · exact callbackFrames_passive passive number report.args added member
  · rw [List.mem_singleton.mp member]; rfl

theorem Ending.passive {args : List Value} {mode : Mode}
    (passive : ∀ work, (state.entry number).stopCallback? trigger = some work →
      work.isPassive = true)
    (ending : Ending state number trigger args mode signal later move) : move.IsPassive := by
  cases ending with
  | @goesOn noted later result move counted _ _ _ failed done =>
    cases result with
    | error failure =>
      rw [failed failure rfl]
      exact .resume _
    | ok report =>
      obtain ⟨reports, same⟩ := done report rfl
      rw [same]
      exact .reports reports
  | @finished noted reports counted =>
    intro added member
    rcases List.mem_append.mp member with member | member
    · exact Move.IsPassive.reports reports added member
    · refine callbackFrames_passive (fun work found => passive work ?_) number _ added member
      rw [← found, Entry.stopCallback?, ← counted.neutral.stops]
      rfl

theorem Grows.stackOf_or (grows : Grows state later) (agent : Agent) :
    later.stackOf agent = state.stackOf agent ∨
      ∃ trigger, agent = .thread trigger ∧ later.stackOf agent = [.countdown trigger] := by
  cases running : state.active with
  | some active =>
    obtain ⟨runner, stack, signal⟩ := active
    by_cases same : agent = runner
    · subst same
      exact .inl ((stackOf_active (grows.active.trans running)).trans (stackOf_active running).symm)
    · exact (grows.stackOf running same).imp_right fun begun =>
        begun.elim fun trigger begun => ⟨trigger, begun.1, begun.2.2⟩
  | none =>
    rw [stackOf_none running, stackOf_none (grows.active.trans running)]
    cases agent with
    | main => exact .inl (by simp only [parked, grows.main])
    | thread trigger =>
      rcases grows.thread trigger with same | ⟨-, started⟩
      · exact .inl (by simp only [parked, same])
      · exact .inr ⟨trigger, rfl, by simp only [parked, started, Thread.stack]⟩

theorem Grows.frames_passive (grows : Grows state later)
    (passive : ∀ agent, ∀ frame ∈ state.stackOf agent, frame.isPassive = true) :
    ∀ agent, ∀ frame ∈ later.stackOf agent, frame.isPassive = true := by
  intro agent frame member
  rcases grows.stackOf_or agent with same | ⟨trigger, -, begun⟩
  · exact passive agent frame (same ▸ member)
  · rw [begun] at member
    rw [List.mem_singleton.mp member]; rfl

namespace Passive

theorem owner_active (passive : Passive state) (sound : Sound state) {stack : List Frame}
    (active : state.active = some ⟨.thread trigger, stack, signal⟩) :
    ∃ number, state.owner trigger = some number :=
  passive.owned trigger (isStarted_of_running (sound.awake trigger _ _ active))

/-- A step does something to one task at most, and asks for passive frames only. -/
theorem reply (passive : Passive state) (sound : Sound state)
    (active : state.active = some ⟨agent, frame :: rest, signal⟩) :
    (∃ number, Local number state (state.answer agent signal frame).1) ∧
      (state.answer agent signal frame).2.IsPassive := by
  have reply := (sound.replied active).reply
  have fits := sound.fits_active active frame List.mem_cons_self
  have meek : frame.isPassive = true := passive.frames agent frame
    (by rw [stackOf_active active]; exact List.mem_cons_self)
  have common := fun common => @answer_passive state agent frame passive.silent meek common signal
  have owner : ∀ trigger, agent = .thread trigger → ∃ task, state.owner trigger = some task := by
    rintro trigger rfl
    exact passive.owner_active sound active
  generalize (state.answer agent signal frame).1 = later at reply ⊢
  generalize (state.answer agent signal frame).2 = move at reply common ⊢
  cases reply with
  | plain plain _ unmoved => exact ⟨⟨0, unmoved.local 0⟩, common plain⟩
  | request asked =>
    rw [Frame.not_isRequest_of_isPassive meek] at asked
    cases asked
  | passed => exact ⟨⟨0, .refl _ _⟩, .resume _⟩
  | dispatched => exact ⟨⟨0, .refl _ _⟩, .resume _⟩
  | calledBack => exact ⟨⟨0, .refl _ _⟩, .resume _⟩
  | @waits _ _ trigger _ pause deadline counts _ unmoved =>
    exact ⟨⟨0, unmoved.local 0⟩, List.forall_mem_singleton.mpr rfl⟩
  | @proceeds _ _ trigger counts undecided =>
    obtain ⟨number, owned⟩ := owner trigger (CountsDown.agent_eq counts fits)
    refine ⟨⟨number, .commit owned .proceed (by rintro ⟨⟩)⟩, ?_⟩
    rw [sound.linked.work trigger number owned]
    exact .pair rfl rfl
  | @obeys _ _ trigger target _ counts called unmoved =>
    obtain ⟨number, owned⟩ := owner trigger (CountsDown.agent_eq counts fits)
    refine ⟨⟨0, unmoved.local 0⟩, ?_⟩
    rcases sound.linked.target?_owned called owned with ⟨-, rfl⟩ | ⟨-, rfl⟩ <;>
      exact .pair rfl rfl
  | cancelled _ _ _ unmoved => exact ⟨⟨0, unmoved.local 0⟩, .resume _⟩
  | @breaks _ _ trigger fault counts undecided faulty =>
    obtain ⟨number, owned⟩ := owner trigger (CountsDown.agent_eq counts fits)
    have kept := (owner_commit state trigger .cancel none trigger).trans owned
    have cancelled : Local number state (state.commit trigger .cancel none).1 :=
      .commit owned .cancel (by rintro ⟨⟩)
    refine ⟨⟨number, cancelled.trans (complain_local kept _ _ _)⟩, ?_⟩
    refine complain_passive kept (fun work found => passive.callbacks number trigger work ?_) _ _ _
    rw [← found, entry_commit]
  | complains trigger target mild =>
    obtain ⟨number, owned⟩ := owner trigger fits.1
    exact ⟨⟨number, complain_local owned _ _ _⟩,
      complain_passive owned (passive.callbacks number trigger) _ _ _⟩
  | @fires _ number trigger args time later _ unmoved =>
    have noted : Local number state (state.updateEntry number fun entry => entry.noteRun time) :=
      .updateEntry state number _ (fun _ => rfl) (fun _ => rfl) (fun _ => rfl) .inl
    exact ⟨⟨number, noted.trans (unmoved.local number)⟩, .pair (passive.works number) rfl⟩
  | misfires => exact ⟨⟨0, .refl _ _⟩, .resume _⟩
  | settles number trigger args =>
    exact ⟨⟨number, endChain_local _ _ _⟩,
      callbackFrames_passive (passive.callbacks number trigger) number args⟩
  | ran number trigger args mode work =>
    have ending := state.endRun_ending number trigger args mode work signal
    exact ⟨⟨number, ending.local⟩, ending.passive (passive.callbacks number trigger)⟩
  | callsBack number work args unmoved =>
    exact ⟨⟨0, unmoved.local 0⟩, .pair meek rfl⟩
  | regrets number work args report =>
    exact ⟨⟨number, countError_local _ _ _⟩, .reports [report]⟩

/-- Nothing is asked of tasks where a single task has changed, and neither its new callbacks nor the
new frames ask anything. -/
theorem within (passive : Passive state) (inside : Local number state later)
    (callbacks : ∀ task trigger callback,
      (later.entry task).stopCallback? trigger = some callback → callback.isPassive = true)
    (frames : ∀ agent, ∀ frame ∈ later.stackOf agent, frame.isPassive = true) :
    Passive later where
  silent := by rw [inside.setting]; exact passive.silent
  works task := by
    by_cases own : task = number
    · rw [own, inside.work]; exact passive.works number
    · rw [inside.others task own]; exact passive.works task
  callbacks := callbacks
  owned := inside.owned passive.owned
  frames := frames

theorem unmoved (passive : Passive state) (unmoved : Unmoved state later) : Passive later :=
  passive.within (unmoved.local 0)
    (fun number => by rw [unmoved.entry]; exact passive.callbacks number)
    (unmoved.neutral.grows.frames_passive passive.frames)

theorem shift (passive : Passive state) (shift : Shift state later)
    (frames : ∀ agent, ∀ frame ∈ later.stackOf agent, frame.isPassive = true) :
    Passive later where
  silent := by rw [shift.setting]; exact passive.silent
  works number := by rw [shift.entry]; exact passive.works number
  callbacks number := by rw [shift.entry]; exact passive.callbacks number
  owned := shift.owned passive.owned
  frames := frames

theorem turns (passive : Passive state) {stack : List Frame}
    (turns : Turns state later agent stack signal)
    (own : ∀ frame ∈ stack, frame.isPassive = true) : Passive later :=
  passive.shift turns.toShift fun other frame member => by
    by_cases same : other = agent
    · rw [same, turns.stack] at member
      exact own frame member
    · rw [turns.otherStacks other same] at member
      exact passive.frames other frame member

theorem step (passive : Passive state) (sound : Sound state) (stepped : state.step = some next) :
    Passive next := by
  cases step_advance sound.awake stepped with
  | passes agent idle turns => exact passive.turns turns (passive.frames agent)
  | ends agent signal active turns =>
    exact passive.turns turns fun _ member => absurd member List.not_mem_nil
  | answers agent frame rest signal active same =>
    have replied := sound.replied_step active stepped
    obtain ⟨⟨number, inside⟩, asks⟩ := passive.reply sound active
    have stack : ∀ other ∈ frame :: rest, other.isPassive = true := fun other member =>
      passive.frames agent other (stackOf_active active ▸ member)
    have frames := (replied.reply.grows sound.linked).frames_passive passive.frames
    refine (passive.within inside (fun task trigger callback found => ?_) frames).turns
      replied.turns fun added member => ?_
    · rcases (Keeps.reply (replied.fits sound) replied.reply).pending task trigger with
        same | ⟨-, none⟩ | ⟨issued, -, stopped⟩
      · exact passive.callbacks task trigger callback (same ▸ found)
      · rw [none] at found
        cases found
      · exact absurd stopped
          (not_stopped_mem_frameDeeds (stack frame List.mem_cons_self) issued)
    · rcases List.mem_append.mp member with member | member
      · exact asks added member
      · exact stack added (List.mem_cons_of_mem _ member)

theorem not_stopped_mem_deeds (passive : Passive state) (callback : Work) :
    .stopped number trigger callback ∉ state.deeds := by
  unfold deeds
  split
  · next agent frame rest signal active =>
    refine not_stopped_mem_frameDeeds (passive.frames agent frame ?_) callback
    rw [stackOf_active active]
    exact List.mem_cons_self
  · exact List.not_mem_nil

theorem runUntil (passive : Passive state) (sound : Sound state) (stops : State → Bool)
    (fuel : Nat) : Passive (state.runUntil stops fuel) :=
  (@runUntil_keeps (fun state => Sound state ∧ Passive state) stops
    (fun holds _ stepped => ⟨holds.1.step stepped, holds.2.step holds.1 stepped⟩) fuel state
    ⟨sound, passive⟩).2

end Passive

/-! ### Sessions in which tasks are started and awaited -/

theorem Serves.passive {standing : Standing} (serves : Serves number trigger standing) :
    ∀ frame ∈ standing.stack, frame.isPassive = true := by
  intro frame member
  cases serves with
  | waits first value counts same =>
    rw [same] at member
    rw [List.mem_singleton.mp member]
    cases counts <;> rfl
  | calls args value same =>
    rw [same] at member
    rcases member with _ | ⟨_, _ | ⟨_, ⟨⟩⟩⟩ <;> rfl
  | runs above args mode work brief same =>
    rw [same] at member
    rcases List.mem_append.mp member with member | member
    · have brief := brief frame member
      cases frame with
      | call work args => cases work <;> first | rfl | cases brief
      | give => rfl
      | _ => cases brief
    · rcases member with _ | ⟨_, _ | ⟨_, ⟨⟩⟩⟩ <;> rfl
  | fails failure same =>
    rw [same] at member
    rw [List.mem_singleton.mp member]; rfl

theorem Concludes.passive {standing : Standing} (concludes : Concludes standing) :
    ∀ frame ∈ standing.stack, frame.isPassive = true := by
  intro frame member
  have last := concludes.last frame member
  cases frame <;> first | rfl | cases last

theorem stackOf_main_of_finished (finished : state.mainHasFinished = true) :
    state.stackOf .main = [] := by
  have idle := mainHasFinished_idle finished
  rw [stackOf_none idle, parked]
  unfold mainHasFinished at finished
  rw [idle] at finished
  cases ended : state.main with
  | finished signal => rfl
  | running | waiting => rw [ended] at finished; cases finished

/-- Between two operations of the main program nothing is asked of the tasks it has started. -/
theorem Manned.passive (manned : Manned names state) (finished : state.mainHasFinished = true) :
    Passive state where
  silent := manned.silent
  works number := by
    by_cases within : number < state.entries.size
    · obtain ⟨called, given⟩ := manned.called number within
      rw [given]; rfl
    · rw [state.entry_of_le (Nat.le_of_not_lt within)]; rfl
  callbacks number trigger callback found := by
    rw [manned.unstopped] at found
    cases found
  owned := manned.owned
  frames agent frame member := by
    have idle := mainHasFinished_idle finished
    cases agent with
    | main =>
      rw [stackOf_main_of_finished finished] at member
      cases member
    | thread trigger =>
      cases started : state.isStarted trigger with
      | false =>
        have fresh : (state.trigger trigger).thread = .unstarted :=
          Classical.byContradiction fun begun => by
            rw [isStarted_iff.mpr begun] at started
            cases started
        rw [stackOf_none idle, parked, fresh] at member
        cases member
      | true =>
        obtain ⟨number, owned⟩ := manned.owned trigger started
        rcases manned.manned number trigger owned started with ⟨serves, -⟩ | concludes
        · exact serves.passive frame member
        · exact concludes.passive frame member

end State

end Timetable
