import Mathlib.Data.List.Chain
import Timetable.Proofs.Chain.Books
import Timetable.Proofs.Chain.Consistent

/-! What becomes of reports.

A report lies below nothing but other reports and the call of a sink, so nothing runs over it but a
request to leave that comes out of a sink. Whatever else goes on, a runner tells all that it owes; and
sinks are handed what is told, and what the triggers of the program complain of.
-/

set_option autoImplicit false

namespace Timetable

def Frame.isSunk : Frame → Bool
  | .sunk _ => true
  | _ => false

/-- `Frame.Covers above below`: only a report and the call of a sink lie directly above a report. -/
def Frame.Covers (above below : Frame) : Prop :=
  below.report? = none ∨ above.report? ≠ none ∨ above.isSunk = true

theorem isChain_of_mute {frames : List Frame}
    (mute : ∀ frame ∈ frames, frame.report? = none) : frames.IsChain Frame.Covers := by
  induction frames with
  | nil => exact .nil
  | cons frame rest ih =>
    refine List.isChain_cons.mpr ⟨fun below head => .inl ?_, ih fun other member => ?_⟩
    · exact mute below (List.mem_cons_of_mem _ (List.mem_of_mem_head? head))
    · exact mute other (List.mem_cons_of_mem _ member)

theorem isChain_reports (reports : List Report) {others : List Frame}
    (mute : ∀ added ∈ others, added.report? = none) :
    (reports.map Frame.report ++ others).IsChain Frame.Covers := by
  induction reports with
  | nil => exact isChain_of_mute mute
  | cons report rest ih => exact List.isChain_cons.mpr ⟨fun _ _ => .inr (.inl (by rintro ⟨⟩)), ih⟩

namespace State

variable {state later next : State} {agent : Agent} {frame : Frame} {rest : List Frame}
  {signal : Signal} {books : Books}

/-- A request to leave comes out of a sink that was handed a report, while another report is due. -/
def QuitsSink (state : State) : Prop :=
  ∃ agent text report rest failure, failure.leaves = true ∧
    state.active = some ⟨agent, .sunk text :: .report report :: rest, .error failure⟩

structure Orderly (state : State) : Prop where
  covered : ∀ agent, (state.stackOf agent).IsChain Frame.Covers
  told : ∀ agent report rest, state.stackOf agent = .report report :: rest →
    ∃ value, state.signalOf agent = .ok value

theorem Orderly.initial (setting : Setting) : Orderly (.initial setting) where
  covered agent := by rw [parked_initial]; exact .nil
  told agent report rest stacked := by rw [parked_initial] at stacked; cases stacked

/-- The reports and the calls of sinks go on, whatever becomes of the sink, unless it is left. -/
theorem answer_of_report (mild : ∀ failure, signal = .error failure →
      frame.isSunk = true ∧ failure.leaves = false)
    (covers : frame.report? ≠ none ∨ frame.isSunk = true) :
    (state.answer agent signal frame).2 = .give .null ∨ ∃ turn actions text,
      (state.answer agent signal frame).2 = .go [.script "sink" turn [] actions, .sunk text] := by
  cases frame with
  | report report =>
    cases signal with
    | ok value => exact (state.tellReport_move report).2
    | error failure => cases (mild failure rfl).1
  | sunk text =>
    cases signal with
    | ok value => exact .inl rfl
    | error failure =>
      have stays : ¬ failure.leaves = true := Bool.eq_false_iff.mp (mild failure rfl).2
      refine .inl ?_
      simp only [answer, handle, if_neg stays]
  | _ => exact covers.elim (fun told => absurd rfl told) fun sunk => by cases sunk

theorem Answered.covered {result : State × Move} (answered : Answered state signal frame result) :
    result.2.frames.IsChain Frame.Covers ∧ ∀ report above,
      result.2.frames = .report report :: above → result.2.signal = .ok .null := by
  cases answered with
  | quiet mute =>
    refine ⟨isChain_of_mute mute, fun report above same => ?_⟩
    have told := mute (.report report) (same ▸ List.mem_cons_self)
    cases told
  | told number reports _ _ _ mute => exact ⟨isChain_reports reports mute, fun _ _ _ => rfl⟩
  | drops => exact ⟨.nil, fun _ _ same => by cases same⟩

theorem Orderly.answers (orderly : Orderly state) (sound : Sound state) {move : Move}
    (stays : ¬ state.QuitsSink)
    (replied : Replied state later next agent frame rest signal move)
    (answered : Answered state signal frame (state.answer agent signal frame))
    (same : (later, move) = state.answer agent signal frame) : Orderly next := by
  have covered := orderly.covered agent
  have told := orderly.told agent
  rw [stackOf_active replied.active] at covered told
  rw [signalOf_active replied.active] at told
  obtain ⟨head, tail⟩ := List.isChain_cons.mp covered
  -- The runner that answers is in order; the others are as they were.
  suffices mine : (move.frames ++ rest).IsChain Frame.Covers ∧ ∀ report above,
      move.frames ++ rest = .report report :: above → ∃ value, move.signal = .ok value by
    refine ⟨fun other => ?_, fun other report above stacked => ?_⟩
    · by_cases own : other = agent
      · rw [own, replied.turns.stack]; exact mine.1
      · rcases replied.stackOf_aside sound own with kept | ⟨-, trigger, begun⟩
        · rw [kept]; exact orderly.covered other
        · rw [begun]; exact .singleton _
    · by_cases own : other = agent
      · rw [own, replied.turns.stack] at stacked
        rw [own, replied.turns.signal]
        exact mine.2 report above stacked
      · have active := (replied.reply.grows sound.linked).active.trans replied.active
        exact ⟨.null, (replied.turns.otherSignals other own).trans (signalOf_other active own)⟩
  have move_eq : move = (state.answer agent signal frame).2 := congrArg Prod.snd same
  by_cases covers : frame.report? ≠ none ∨ frame.isSunk = true
  · by_cases leaves : ∃ failure, signal = .error failure ∧ failure.leaves = true
    · -- The request to leave has come out of a sink, so no report lies below.
      obtain ⟨failure, rfl, leaves⟩ := leaves
      cases frame with
      | sunk text =>
        simp only [answer, handle, if_pos leaves] at move_eq
        rw [move_eq]
        refine ⟨tail, fun report above stacked => ?_⟩
        obtain rfl : rest = .report report :: above := stacked
        exact absurd ⟨agent, text, report, above, failure, leaves, replied.active⟩ stays
      | report report =>
        obtain ⟨value, fine⟩ := told report rest rfl
        cases fine
      | _ => exact covers.elim (fun told => absurd rfl told) fun sunk => by cases sunk
    · have mild : ∀ failure, signal = .error failure →
          frame.isSunk = true ∧ failure.leaves = false := by
        rintro failure rfl
        refine ⟨?_, by simpa using fun left => leaves ⟨failure, rfl, left⟩⟩
        rcases covers with reports | sunk
        · obtain ⟨report, told_report⟩ := Option.ne_none_iff_exists'.mp reports
          obtain ⟨value, fine⟩ := told report rest (by rw [Frame.report_of_report? told_report])
          cases fine
        · exact sunk
      rcases answer_of_report mild covers with done | ⟨turn, actions, text, calls⟩
      · rw [move_eq, done]
        exact ⟨tail, fun _ _ _ => ⟨.null, rfl⟩⟩
      · rw [move_eq, calls]
        refine ⟨List.isChain_cons.mpr ⟨fun below last => ?_, List.isChain_cons.mpr
          ⟨fun _ _ => .inr (.inr rfl), tail⟩⟩, fun report above stacked => by cases stacked⟩
        cases last
        exact .inl rfl
  · -- Nothing that is owed lies directly below.
    have clear : ∀ below ∈ rest.head?, below.report? = none := by
      intro below first
      exact (head below first).resolve_right covers
    obtain ⟨chained, fine⟩ := answered.covered
    rw [← move_eq] at chained fine
    refine ⟨List.isChain_append.mpr ⟨chained, tail, fun _ _ below first => .inl (clear below first)⟩,
      fun report above stacked => ?_⟩
    cases frames : move.frames with
    | nil =>
      rw [frames, List.nil_append] at stacked
      have none := clear (.report report) (by rw [stacked]; rfl)
      cases none
    | cons top others =>
      rw [frames, List.cons_append] at stacked
      obtain ⟨rfl, -⟩ := List.cons.inj stacked
      exact ⟨.null, fine report others frames⟩

theorem Orderly.turns (orderly : Orderly state) {stack : List Frame}
    (turns : Turns state next agent stack (.ok .null)) (fresh : stack.IsChain Frame.Covers)
    (idle : ∀ other, other ≠ agent → ∃ value, state.signalOf other = .ok value) :
    Orderly next where
  covered other := by
    by_cases own : other = agent
    · rw [own, turns.stack]; exact fresh
    · rw [turns.otherStacks other own]; exact orderly.covered other
  told other report above _ := by
    by_cases own : other = agent
    · exact ⟨.null, own ▸ turns.signal⟩
    · rw [turns.otherSignals other own]; exact idle other own

theorem Orderly.step (orderly : Orderly state) (booked : Booked state books) (sound : Sound state)
    (stays : ¬ state.QuitsSink) (stepped : state.step = some next) : Orderly next := by
  cases step_advance sound.awake stepped with
  | passes agent idle turns =>
    exact orderly.turns turns (orderly.covered agent) fun _ _ => ⟨.null, signalOf_none idle⟩
  | ends agent signal active turns =>
    exact orderly.turns turns .nil fun _ own => ⟨.null, signalOf_other active own⟩
  | answers agent frame rest signal active same =>
    have answered := booked.answered sound active
    subst same
    exact orderly.answers sound stays (sound.replied active) answered rfl

theorem Orderly.issue (orderly : Orderly state) (finished : state.mainHasFinished = true)
    (operation : Operation) : Orderly (state.issue operation) := by
  have idle := mainHasFinished_idle finished
  exact orderly.turns (activateMain_turns idle [.perform operation]) (.singleton _)
    fun _ _ => ⟨.null, signalOf_none idle⟩

theorem Orderly.lost_post (orderly : Orderly state) (books : Books) :
    (books.post state).lost = books.lost ++ state.unreported := by
  unfold Books.post
  dsimp only
  split
  · next agent report rest signal active =>
    have told := orderly.told agent report rest (stackOf_active active)
    rw [signalOf_active active] at told
    obtain ⟨value, rfl⟩ := told
    have posted : books.post state = books.close agent true ∧ _ := post_report active
    rw [posted.2.1, posted.2.2, Books.enter_nil, List.append_nil]
    exact books.close_lost agent
  · rfl

/-! ### What sinks are handed -/

/-- The report that the next step hands to the sink of a trigger that the program made itself. -/
def complaining? (state : State) : Option Report :=
  match state.active with
  | some ⟨_, frame :: _, signal⟩ => state.complaint? signal frame
  | _ => none

def complaints (past : List State) : List Report :=
  past.filterMap complaining?

theorem complaints_cons (past : List State) :
    complaints (state :: past) = state.complaining?.toList ++ complaints past := by
  rw [complaints, List.filterMap_cons]
  cases state.complaining? <;> rfl

theorem events_make (state : State) (agent : Agent) (rest : List Frame) (move : Move) :
    (state.make agent rest move).events = state.events := by
  cases move <;> cases agent <;> rfl

theorem IsCalm.events (calm : state.IsCalm) (stepped : state.step = some next) :
    next.events = state.events := by
  cases step_stepped stepped with
  | answers agent frame rest signal active => exact absurd active (calm _ _ _ _)
  | finishes agent signal _ same => rw [same]; cases agent <;> rfl
  | activates trigger others _ _ same =>
    rw [same, activate]
    split <;> rfl
  | passes _ _ passed => cases passed <;> rfl

theorem Answered.handed {result : State × Move} (answered : Answered state signal frame result) :
    result.1.handed = (state.hands? signal frame).toList ++ state.handed := by
  cases answered with
  | quiet _ _ _ _ handed => exact handed
  | told _ _ _ _ records _ _ hands => rw [hands]; exact records.handed
  | drops _ _ _ _ _ records _ hands => rw [hands]; exact records.handed

def toldToSink (setting : Setting) (books : Books) : List Report :=
  if setting.sink.isSome then books.told.map Note.report else []

/-- A report is handed to the sink of the registry as it is entered as told. -/
theorem Booked.handed_post (booked : Booked state books)
    (active : state.active = some ⟨agent, frame :: rest, signal⟩) :
    ((state.hands? signal frame).toList ++ toldToSink state.setting books).Perm
      (state.complaining?.toList ++ toldToSink state.setting (books.post state)) := by
  have complains : state.complaining? = state.complaint? signal frame := by
    rw [complaining?, active]
  rw [complains]
  cases told : frame.report? with
  | none =>
    have hands : state.hands? signal frame = state.complaint? signal frame := by
      cases frame <;> first | (cases signal <;> rfl) | cases told
    rw [hands, post_other active told]
    exact .refl _
  | some report =>
    obtain rfl := Frame.report_of_report? told
    have owes := booked.owed agent
    rw [stackOf_active active] at owes
    obtain ⟨post, -⟩ : books.post state = books.close agent signal.isOk ∧ _ := post_report active
    have closed := Books.close_told owes signal.isOk
    cases signal with
    | error failure =>
      have same : (books.post state).told.map Note.report = books.told.map Note.report := by
        rw [post, closed]
        exact List.append_nil _
      rw [toldToSink, toldToSink, same]
      exact .refl _
    | ok value =>
      have added : (books.post state).told.map Note.report =
          books.told.map Note.report ++ [report] := by
        rw [post, closed]
        rfl
      rw [toldToSink, toldToSink, added]
      cases sink : state.setting.sink with
      | none =>
        rw [hands?, sink]
        exact .refl _
      | some sink =>
        rw [hands?, sink]
        show ([report] ++ books.told.map Note.report).Perm (books.told.map Note.report ++ [report])
        exact List.perm_append_comm

def Handed (setting : Setting) (past : List State) (state : State) : Prop :=
  state.handed.Perm (toldToSink setting (.of past) ++ complaints past)

theorem Handed.calm {setting : Setting} {past : List State} (handed : Handed setting past state)
    (calm : state.IsCalm) (events : next.events = state.events) :
    Handed setting (state :: past) next := by
  have silent : state.complaining? = none := by
    unfold complaining?
    split
    · next active => exact absurd active (calm _ _ _ _)
    · rfl
  have same : Books.of (state :: past) = .of past := calm.post
  rw [Handed, complaints_cons, silent, same, State.handed, events]
  exact handed

theorem Handed.answers {setting : Setting} {past : List State} (handed : Handed setting past state)
    (same : state.setting = setting) (booked : Booked state (.of past))
    (active : state.active = some ⟨agent, frame :: rest, signal⟩)
    (answered : Answered state signal frame (state.answer agent signal frame)) :
    Handed setting (state :: past) ((state.answer agent signal frame).1.make agent rest
      (state.answer agent signal frame).2) := by
  have entered := booked.handed_post active
  rw [same] at entered
  rw [Handed, complaints_cons, State.handed, events_make]
  show (state.answer agent signal frame).1.handed.Perm _
  rw [answered.handed]
  -- What is handed now comes before what was; what is told now comes after.
  have before := handed.append_left (state.hands? signal frame).toList
  have moved := entered.append_right (complaints past)
  have turned : (state.complaining?.toList ++ toldToSink setting ((Books.of past).post state)).Perm
      (toldToSink setting ((Books.of past).post state) ++ state.complaining?.toList) :=
    List.perm_append_comm
  have ordered := turned.append_right (complaints past)
  rw [← List.append_assoc] at before
  rw [List.append_assoc (toldToSink setting _)] at ordered
  exact (before.trans moved).trans ordered

end State

namespace Trace

variable {setting : Setting} {past : List State} {state : State}

theorem orderly (trace : Trace (.initial setting) past state)
    (stays : ∀ visited ∈ past, ¬ visited.QuitsSink) : state.Orderly := by
  induction trace with
  | refl => exact .initial setting
  | issue operation earlier finished ih =>
    exact (ih fun visited member => stays visited (List.mem_cons_of_mem _ member)).issue finished
      operation
  | step earlier stepped ih =>
    exact (ih fun visited member => stays visited (List.mem_cons_of_mem _ member)).step
      earlier.booked (earlier.sound (.initial setting)) (stays _ List.mem_cons_self) stepped

theorem lost_cons (trace : Trace (.initial setting) past state)
    (stays : ∀ visited ∈ state :: past, ¬ visited.QuitsSink) :
    (Books.of (state :: past)).lost = (Books.of past).lost ++ state.unreported :=
  (trace.orderly fun visited member => stays visited (List.mem_cons_of_mem _ member)).lost_post _

/-- What is lost is what is not reported at all, unless a request to leave comes out of a sink. -/
theorem lost_eq (trace : Trace (.initial setting) past state)
    (stays : ∀ visited ∈ past, ¬ visited.QuitsSink) :
    (Books.of past).lost = past.reverse.flatMap State.unreported := by
  have more : ∀ (visited : State) (earlier : List State),
      (visited :: earlier).reverse.flatMap State.unreported =
        earlier.reverse.flatMap State.unreported ++ visited.unreported := by
    intro visited earlier
    simp
  induction trace with
  | refl => rfl
  | issue operation earlier finished ih =>
    have before := ih fun visited member => stays visited (List.mem_cons_of_mem _ member)
    rw [earlier.lost_cons stays, more, before]
  | step earlier stepped ih =>
    have before := ih fun visited member => stays visited (List.mem_cons_of_mem _ member)
    rw [earlier.lost_cons stays, more, before]

/-- Sinks are handed what is told, and what the triggers of the program complain of. -/
theorem handed (trace : Trace (.initial setting) past state) : State.Handed setting past state := by
  induction trace with
  | refl =>
    unfold State.Handed State.toldToSink
    split <;> exact .refl _
  | issue operation earlier finished ih =>
    exact ih.calm (.of_idle (State.mainHasFinished_idle finished)) rfl
  | step earlier stepped ih =>
    have sound := earlier.sound (.initial setting)
    cases State.step_advance sound.awake stepped with
    | passes agent idle turns =>
      exact ih.calm (.of_idle idle) (State.IsCalm.events (.of_idle idle) stepped)
    | ends agent signal active turns =>
      exact ih.calm (.of_empty active) (State.IsCalm.events (.of_empty active) stepped)
    | answers agent frame rest signal active same =>
      subst same
      exact ih.answers earlier.setting_eq earlier.booked active (earlier.booked.answered sound active)

end Trace

end Timetable
