import Timetable.Proofs.Chain.Joined
import Timetable.Proofs.Chain.Tended

/-! Threads that are alive.

The thread of a trigger that a task holds has something left to do as long as it is alive, until it
is about to end.
-/

set_option autoImplicit false

namespace Timetable

namespace State

/-- A thread that is alive has something left to do, unless it is about to end. -/
def HasWork (state : State) (trigger : Nat) : Prop :=
  (state.trigger trigger).thread.isAlive = true → state.stackOf (.thread trigger) = [] →
    ∃ signal, state.active = some ⟨.thread trigger, [], signal⟩

variable {state later next : State} {agent : Agent} {number trigger : Nat} {frame : Frame}
  {rest : List Frame} {signal : Signal} {move : Move}

/-- Frames that are at work for a trigger or for a callback put their runner aside only while the
trigger waits. -/
theorem Reply.resumes_or_waits (reply : Reply state agent signal frame later move)
    (uncommon : frame.isCommon = false) : (∃ frames signal, move = .resume frames signal) ∨
      ∃ waiting pause deadline, move = .wait [.waited waiting] pause deadline := by
  have complains : ∀ (state : State) (trigger : Nat) (target : Work) (stage : String)
      (failure : Failure), ∃ frames signal,
        (state.complain trigger target stage failure).2 = .resume frames signal := by
    intro state trigger target stage failure
    unfold complain
    dsimp only
    split <;> exact ⟨_, _, rfl⟩
  cases reply with
  | plain common => rw [uncommon] at common; cases common
  | request asked => rw [Frame.isCommon_of_isRequest asked] at uncommon; cases uncommon
  | waits pause deadline => exact .inr ⟨_, pause, deadline, rfl⟩
  | breaks => exact .inl (complains _ _ _ _ _)
  | complains => exact .inl (complains _ _ _ _ _)
  | ran number trigger args mode work =>
    refine .inl ?_
    obtain ⟨failed, noted, -, same⟩ := state.endRun_eq number trigger args mode work signal
    rw [same, goOn]
    split
    · split <;> exact ⟨_, _, rfl⟩
    · exact ⟨_, _, rfl⟩
  | _ => exact .inl ⟨_, _, rfl⟩

/-- A thread that tends its task has something left to do below what the program has it do. -/
theorem Attached.rest_ne_nil (attached : Attached state)
    (held : (state.entry number).trigger = some trigger) (common : frame.isCommon = true)
    (stack : state.stackOf (.thread trigger) = frame :: rest) : rest ≠ [] := by
  rcases attached number trigger held with tends | departs
  · cases tends with
    | waits first value counts same =>
      cases stack.symm.trans same
      rw [counts.uncommon] at common
      cases common
    | calls args value same => cases stack.symm.trans same; cases common
    | runs above args mode work all same =>
      cases above with
      | nil => cases stack.symm.trans same; cases common
      | cons first above =>
        obtain ⟨-, rfl⟩ := List.cons.inj (stack.symm.trans same)
        cases above <;> rintro ⟨⟩
    | fails failure same => cases stack.symm.trans same; cases common
  · cases departs with
    | redirected first value counts same =>
      cases stack.symm.trans same
      rw [counts.uncommon] at common
      cases common
    | settles args value same => cases stack.symm.trans same; cases common
    | spent same => cases stack.symm.trans same

/-- A thread that is not alive is not, after a step, unless it has begun. -/
theorem Sound.dead_step (sound : Sound state) (stepped : state.step = some next)
    (dead : (state.trigger trigger).thread.isAlive = false)
    (empty : next.stackOf (.thread trigger) = []) :
    (next.trigger trigger).thread.isAlive = false := by
  cases thread : (state.trigger trigger).thread with
  | suspended stack => rw [thread] at dead; cases dead
  | running => rw [thread] at dead; cases dead
  | ended => rw [sound.ended_step stepped thread]; rfl
  | unstarted =>
    have unstarted : state.isStarted trigger = false := by rw [isStarted, thread]
    have stays : next.isStarted trigger = false →
        (next.trigger trigger).thread.isAlive = false := by
      intro none
      rw [isStarted] at none
      cases same : (next.trigger trigger).thread <;> simp_all [Thread.isAlive]
    cases step_advance sound.awake stepped with
    | passes agent idle turns => exact stays ((turns.started trigger).trans unstarted)
    | ends agent signal active turns => exact stays ((turns.started trigger).trans unstarted)
    | answers agent frame rest signal active same =>
      have replied := sound.replied_step active stepped
      refine stays ((replied.turns.started trigger).trans ?_)
      have other : .thread trigger ≠ agent := by
        rintro rfl
        rw [sound.awake trigger _ _ active] at thread
        cases thread
      have grows := replied.reply.grows sound.linked
      rcases grows.thread trigger with kept | ⟨-, begun⟩
      · rw [isStarted, kept, thread]
      · rw [replied.turns.otherStacks _ other, stackOf_other (grows.active.trans active) other,
          parked, begun] at empty
        cases empty

theorem HasWork.step (before : state.HasWork trigger) (attached : Attached state)
    (sound : Sound state) (held : (state.entry number).trigger = some trigger)
    (stepped : state.step = some next) : next.HasWork trigger := by
  intro alive empty
  -- A thread whose stack was empty before is no longer alive.
  have kept : (∀ signal, state.active ≠ some ⟨.thread trigger, [], signal⟩) →
      state.stackOf (.thread trigger) ≠ [] := by
    intro resting none
    rw [sound.dead_step stepped ?_ empty] at alive
    · cases alive
    · refine Bool.eq_false_iff.mpr fun alive => ?_
      obtain ⟨signal, active⟩ := before alive none
      exact resting signal active
  cases step_advance sound.awake stepped with
  | passes agent idle turns =>
    refine absurd ?_ (kept fun signal active => ?_)
    · exact (congrArg Standing.stack (turns.standing_idle idle number trigger)).symm.trans empty
    · rw [idle] at active; cases active
  | ends agent signal active turns =>
    by_cases own : agent = .thread trigger
    · subst own
      have started := isStarted_of_running (sound.awake trigger _ _ active)
      have ended : (next.trigger trigger).thread = .ended := by
        rw [eq_of_finished active stepped]
        exact (thread_updateTrigger (within_of_isStarted started) .ended trigger).trans (if_pos rfl)
      rw [ended] at alive
      cases alive
    · refine absurd ?_ (kept fun signal other => ?_)
      · exact (turns.otherStacks _ (Ne.symm own)).symm.trans empty
      · rw [active] at other; cases other; exact own rfl
  | answers agent frame rest signal active same =>
    have replied := sound.replied_step active stepped
    by_cases own : agent = .thread trigger
    · subst own
      rw [replied.turns.stack] at empty
      obtain ⟨none, rfl⟩ := List.append_eq_nil_iff.mp empty
      have uncommon : frame.isCommon = false := Bool.eq_false_iff.mpr fun common =>
        attached.rest_ne_nil held common (stackOf_active active) rfl
      rcases replied.reply.resumes_or_waits uncommon with
        ⟨frames, signal, resumes⟩ | ⟨waiting, pause, deadline, waits⟩
      · rw [resumes] at none same
        obtain rfl : frames = [] := none
        exact ⟨signal, by rw [same]; rfl⟩
      · rw [waits] at none
        cases none
    · refine absurd ?_ (kept fun signal other => ?_)
      · have stack := replied.turns.otherStacks _ (Ne.symm own)
        exact ((sound.standing_aside active held own).1.symm.trans stack.symm).trans empty
      · rw [active] at other; cases other

end State

namespace Trace

variable {setting : Setting} {state : State} {past : List State} {number trigger : Nat}

end Trace

end Timetable
