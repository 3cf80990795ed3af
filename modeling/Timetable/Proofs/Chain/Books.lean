import Mathlib.Data.List.Perm.Basic
import Timetable.Proofs.Chain.Recorded
import Timetable.Proofs.Chain.Firing

/-! The books of a session.

Every error that is recorded on a task is entered in the books, with the runner that owes its report.
A runner tells its reports one after the other, unless a failure runs over them. The books add up, and
agree with the counters of tasks, with the stacks of runners and with what sinks were handed.
-/

set_option autoImplicit false

namespace Timetable

/-- An error as it is recorded: by a runner, and on a task. -/
structure Note where
  agent : Agent
  task : Nat
  report : Report

namespace Note

def reportsOn (task : Nat) (notes : List Note) : List Report :=
  (notes.filter fun note => decide (note.task = task)).map Note.report

def reportsBy (agent : Agent) (notes : List Note) : List Report :=
  (notes.filter fun note => decide (note.agent = agent)).map Note.report

variable {agent other : Agent} {task number : Nat}

theorem reportsOn_append (task : Nat) (first second : List Note) :
    reportsOn task (first ++ second) = reportsOn task first ++ reportsOn task second := by
  simp [reportsOn]

theorem reportsBy_append (agent : Agent) (first second : List Note) :
    reportsBy agent (first ++ second) = reportsBy agent first ++ reportsBy agent second := by
  simp [reportsBy]

theorem reportsOn_map (agent : Agent) (task number : Nat) (reports : List Report) :
    reportsOn number (reports.map (Note.mk agent task)) = if task = number then reports else [] := by
  simp only [reportsOn, List.filter_map, List.map_map]
  split <;> simp_all [Function.comp_def]

theorem reportsBy_map (agent other : Agent) (task : Nat) (reports : List Report) :
    reportsBy other (reports.map (Note.mk agent task)) = if agent = other then reports else [] := by
  simp only [reportsBy, List.filter_map, List.map_map]
  split <;> simp_all [Function.comp_def]

theorem reportsBy_eq_nil {notes : List Note} (none : ∀ note ∈ notes, note.agent ≠ agent) :
    reportsBy agent notes = [] := by
  rw [reportsBy, List.filter_eq_nil_iff.mpr, List.map_nil]
  exact fun note member => by simpa using none note member

end Note

namespace State

def reported (state : State) : List Note :=
  match state.active with
  | some ⟨agent, frame :: _, signal⟩ =>
    match state.blamed? frame with
    | none => []
    | some task => (state.answer agent signal frame).2.reports.map (Note.mk agent task)
  | _ => []

def unreported (state : State) : List Note :=
  match state.active with
  | some ⟨agent, frame :: _, signal⟩ =>
    match state.blamed? frame with
    | none => []
    | some task => (state.dropped signal frame).map (Note.mk agent task)
  | _ => []

end State

/-- What has become of the errors that were recorded, the earliest first. What a runner owes comes in
the order in which the runner will tell it. -/
structure Books where
  recorded : List Note
  owed : List Note
  told : List Note
  lost : List Note

namespace Books

def empty : Books := ⟨[], [], [], []⟩

def enter (books : Books) (reported dropped : List Note) : Books where
  recorded := books.recorded ++ (reported ++ dropped)
  owed := reported ++ books.owed
  told := books.told
  lost := books.lost ++ dropped

def close (books : Books) (agent : Agent) (told : Bool) : Books :=
  match books.owed.find? fun note => decide (note.agent = agent) with
  | none => books
  | some note =>
    { recorded := books.recorded
      owed := books.owed.eraseP fun note => decide (note.agent = agent)
      told := if told then books.told ++ [note] else books.told
      lost := if told then books.lost else books.lost ++ [note] }

def post (books : Books) (state : State) : Books :=
  let entered := books.enter state.reported state.unreported
  match state.active with
  | some ⟨agent, .report _ :: _, signal⟩ => entered.close agent signal.isOk
  | _ => entered

def of (past : List State) : Books :=
  past.foldr (fun state books => books.post state) .empty

theorem enter_nil (books : Books) : books.enter [] [] = books := by
  simp [enter]

def Balanced (books : Books) : Prop :=
  books.recorded.Perm (books.told ++ books.owed ++ books.lost)

variable {books : Books} {agent : Agent}

theorem Balanced.enter (balanced : books.Balanced) (reported dropped : List Note) :
    (books.enter reported dropped).Balanced := by
  have swapped : (books.owed ++ books.lost ++ reported).Perm
      (reported ++ (books.owed ++ books.lost)) := List.perm_append_comm
  have moved := (swapped.append_left books.told).append_right dropped
  refine (balanced.append_right (reported ++ dropped)).trans ?_
  simpa only [Books.enter, List.append_assoc] using moved

theorem close_cases (books : Books) (agent : Agent) (told : Bool) :
    books.close agent told = books ∧ (∀ note ∈ books.owed, note.agent ≠ agent) ∨
      ∃ note before after, note.agent = agent ∧ books.owed = before ++ note :: after ∧
        (∀ other ∈ before, other.agent ≠ agent) ∧
        books.close agent told =
          { recorded := books.recorded
            owed := before ++ after
            told := if told then books.told ++ [note] else books.told
            lost := if told then books.lost else books.lost ++ [note] } := by
  unfold close
  cases found : books.owed.find? fun note => decide (note.agent = agent) with
  | none => exact .inl ⟨rfl, by simpa using List.find?_eq_none.mp found⟩
  | some note =>
    obtain ⟨mine, before, after, split, others⟩ := List.find?_eq_some_iff_append.mp found
    have erased : books.owed.eraseP (fun note => decide (note.agent = agent)) =
        before ++ after := by
      rw [split, List.eraseP_append_right _ (by simpa using others),
        List.eraseP_cons_of_pos (by simpa using mine)]
    simp only [erased]
    exact .inr ⟨note, before, after, by simpa using mine, split, by simpa using others, rfl⟩

theorem Balanced.close (balanced : books.Balanced) (agent : Agent) (told : Bool) :
    (books.close agent told).Balanced := by
  rcases books.close_cases agent told with ⟨same, -⟩ | ⟨note, before, after, -, split, -, closed⟩
  · rw [same]
    exact balanced
  · have taken : (before ++ note :: after).Perm (note :: (before ++ after)) := List.perm_middle
    -- The note is the first one of the runner among what is owed; it goes to what is told, or lost.
    have moved := (taken.append_left books.told).append_right books.lost
    rw [closed]
    rw [Balanced, split] at balanced
    refine (balanced.trans moved).trans ?_
    cases told with
    | true => simp
    | false =>
      have last : ([note] ++ (before ++ after ++ books.lost)).Perm
          (before ++ after ++ books.lost ++ [note]) := List.perm_append_comm
      simpa using last.append_left books.told

theorem close_recorded (books : Books) (agent : Agent) (told : Bool) :
    (books.close agent told).recorded = books.recorded := by
  rcases books.close_cases agent told with ⟨same, -⟩ | ⟨_, _, _, -, -, -, closed⟩
  · rw [same]
  · rw [closed]

/-- A runner that owes a report owes it no longer once it was to tell it. -/
theorem close_owed {report : Report} {reports : List Report}
    (owes : Note.reportsBy agent books.owed = report :: reports) (told : Bool) :
    Note.reportsBy agent (books.close agent told).owed = reports ∧
      ∀ other, other ≠ agent → Note.reportsBy other (books.close agent told).owed =
        Note.reportsBy other books.owed := by
  rcases books.close_cases agent told with
    ⟨-, none⟩ | ⟨note, before, after, mine, split, others, closed⟩
  · rw [Note.reportsBy_eq_nil none] at owes
    cases owes
  · rw [closed]
    have taken : ∀ other, Note.reportsBy other [note] =
        if other = agent then [note.report] else [] := by
      intro other
      rw [← mine]
      by_cases same : note.agent = other
      · simp [Note.reportsBy, same]
      · simp [Note.reportsBy, same, Ne.symm same]
    have whole : ∀ other, Note.reportsBy other books.owed = Note.reportsBy other before ++
        (Note.reportsBy other [note] ++ Note.reportsBy other after) := by
      intro other
      rw [split, ← Note.reportsBy_append, ← Note.reportsBy_append]
      rfl
    refine ⟨?_, fun other different => ?_⟩
    · rw [whole, Note.reportsBy_eq_nil others, taken, if_pos rfl] at owes
      rw [Note.reportsBy_append, Note.reportsBy_eq_nil others]
      exact (List.cons.inj owes).2
    · rw [whole, taken, if_neg different, Note.reportsBy_append]
      rfl

theorem close_lost (books : Books) (agent : Agent) : (books.close agent true).lost = books.lost := by
  rcases books.close_cases agent true with ⟨same, -⟩ | ⟨_, _, _, -, -, -, closed⟩
  · rw [same]
  · rw [closed]; rfl

theorem close_told {report : Report} {reports : List Report}
    (owes : Note.reportsBy agent books.owed = report :: reports) (told : Bool) :
    (books.close agent told).told.map Note.report =
      books.told.map Note.report ++ if told then [report] else [] := by
  rcases books.close_cases agent told with
    ⟨-, none⟩ | ⟨note, before, after, mine, split, others, closed⟩
  · rw [Note.reportsBy_eq_nil none] at owes
    cases owes
  · have first : note.report = report := by
      rw [split, Note.reportsBy_append, Note.reportsBy_eq_nil others, Note.reportsBy] at owes
      simp only [List.nil_append, mine, decide_true, List.filter_cons_of_pos, List.map_cons] at owes
      exact (List.cons.inj owes).1
    rw [closed, ← first]
    cases told <;> simp

theorem Balanced.post (balanced : books.Balanced) (state : State) : (books.post state).Balanced := by
  unfold Books.post
  dsimp only
  split
  · exact (balanced.enter _ _).close _ _
  · exact balanced.enter _ _

theorem post_recorded (books : Books) (state : State) :
    (books.post state).recorded = books.recorded ++ (state.reported ++ state.unreported) := by
  unfold Books.post
  dsimp only
  split
  · exact close_recorded _ _ _
  · rfl

end Books

namespace State

variable {state later next : State} {agent : Agent} {frame : Frame} {rest : List Frame}
  {signal : Signal} {books : Books}

structure Entered (state later : State) (agent : Agent) (signal : Signal) (frame : Frame)
    (move : Move) : Prop where
  tally : ∀ number, (later.entry number).tally =
    ((state.entry number).tally.ran (state.fires number signal frame)).after
      (Note.reportsOn number (state.reported ++ state.unreported))
  mine : Note.reportsBy agent state.reported = move.reports
  others : ∀ other, other ≠ agent → Note.reportsBy other state.reported = []

theorem Answered.entered (active : state.active = some ⟨agent, frame :: rest, signal⟩)
    (answered : Answered state signal frame (state.answer agent signal frame)) :
    Entered state (state.answer agent signal frame).1 agent signal frame
      (state.answer agent signal frame).2 := by
  have reported : state.reported = match state.blamed? frame with
      | none => []
      | some task => (state.answer agent signal frame).2.reports.map (Note.mk agent task) := by
    rw [State.reported, active]
  have unreported : state.unreported = match state.blamed? frame with
      | none => []
      | some task => (state.dropped signal frame).map (Note.mk agent task) := by
    rw [State.unreported, active]
  generalize state.answer agent signal frame = result at answered reported ⊢
  cases answered with
  | quiet mute dropped tally =>
    rw [mute.reports] at reported
    rw [dropped] at unreported
    have none : state.reported = [] ∧ state.unreported = [] := by
      cases blamed : state.blamed? frame <;>
        (rw [blamed] at reported unreported; exact ⟨reported, unreported⟩)
    refine ⟨fun number => ?_, ?_, fun _ _ => ?_⟩
    · rw [none.1, none.2]
      exact tally number
    · rw [none.1, mute.reports]; rfl
    · rw [none.1]; rfl
  | @told after others number reports blamed within records mute dropped hands fires =>
    have told := Move.reports_go reports mute
    rw [blamed, told] at reported
    rw [blamed, dropped] at unreported
    replace unreported : state.unreported = [] := unreported
    refine ⟨fun other => ?_, ?_, fun other different => ?_⟩
    · rw [reported, unreported, List.append_nil, Note.reportsOn_map, fires]
      split
      · next same => rw [← same]; exact records.tally
      · next different => exact records.others other (Ne.symm different)
    · rw [reported, Note.reportsBy_map, if_pos rfl, told]
    · rw [reported, Note.reportsBy_map, if_neg (Ne.symm different)]
  | @drops after number report failure blamed within records dropped hands fires =>
    have told : (Move.fail failure).reports = [] := (Move.IsMute.fail failure).reports
    rw [blamed, told] at reported
    rw [blamed, dropped] at unreported
    replace reported : state.reported = [] := reported
    refine ⟨fun other => ?_, ?_, fun other different => ?_⟩
    · rw [reported, unreported, List.nil_append, Note.reportsOn_map, fires]
      split
      · next same => rw [← same]; exact records.tally
      · next different => exact records.others other (Ne.symm different)
    · rw [reported, told]; rfl
    · rw [reported]; rfl

/-! ### The books agree with the machine -/

/-- `Booked state books`: the errors in the books are those that are counted, runners owe the reports on
their stacks, and callbacks have been called of tasks that exist. -/
structure Booked (state : State) (books : Books) : Prop where
  errors : ∀ number,
    (state.entry number).errors = (Note.reportsOn number books.recorded).length
  lastError : ∀ number, (state.entry number).lastError =
    (Note.reportsOn number books.recorded).getLast?.map Report.message
  owed : ∀ agent, Note.reportsBy agent books.owed =
    (state.stackOf agent).filterMap Frame.report?
  balanced : books.Balanced
  known : ∀ agent number work args,
    Frame.calledBack number work args ∈ state.stackOf agent → number < state.entries.size

theorem Sound.stackOf_unstarted (sound : Sound state) {trigger : Nat}
    (unstarted : state.isStarted trigger = false) : state.stackOf (.thread trigger) = [] := by
  have fresh : (state.trigger trigger).thread = .unstarted := by
    by_contra started
    rw [isStarted_iff.mpr started] at unstarted
    cases unstarted
  rw [sound.stackOf_thread (by rw [fresh]; rintro ⟨⟩), fresh]
  rfl

theorem Replied.stackOf_aside {move : Move} (sound : Sound state)
    (replied : Replied state later next agent frame rest signal move) {other : Agent}
    (different : other ≠ agent) : next.stackOf other = state.stackOf other ∨
      state.stackOf other = [] ∧ ∃ trigger, next.stackOf other = [.countdown trigger] := by
  rw [replied.turns.otherStacks other different]
  rcases (replied.reply.grows sound.linked).stackOf replied.active different with
    same | ⟨trigger, rfl, unstarted, begun⟩
  · exact .inl same
  · exact .inr ⟨sound.stackOf_unstarted unstarted, trigger, begun⟩

theorem complain_calledBack {trigger number : Nat} {target work : Work} {stage : String}
    {failure : Failure} {args : List Value} :
    Frame.calledBack number work args ∉ (state.complain trigger target stage failure).2.frames := by
  intro member
  rcases mem_complain member with plain | ⟨_, _, -, -, same⟩
  · cases plain
  · cases same

theorem Ending.not_calledBack {trigger number task : Nat} {args given : List Value} {mode : Mode}
    {outcome : Signal} {move : Move} {work : Work}
    (ending : Ending state task trigger given mode outcome later move) :
    Frame.calledBack number work args ∉ move.frames := by
  intro member
  rcases ending.mem_frames member with plain | ⟨_, -, same⟩
  · cases plain
  · cases same

theorem Reply.callback_of_calledBack {move : Move} {number : Nat} {work : Work}
    {args : List Value} (reply : Reply state agent signal frame later move)
    (member : Frame.calledBack number work args ∈ move.frames) :
    frame = .callback number work args := by
  cases reply with
  | plain _ _ _ plain => cases plain _ member
  | request _ _ plain => cases plain _ member
  | breaks => exact absurd member complain_calledBack
  | complains => exact absurd member complain_calledBack
  | settles =>
    obtain ⟨_, -, same⟩ := mem_callbackFrames member
    cases same
  | ran => exact absurd member (endRun_ending _ _ _ _ _ _ _).not_calledBack
  | callsBack =>
    rcases List.mem_cons.mp member with same | member
    · cases same
    · cases List.mem_singleton.mp member
      rfl
  | waits => cases List.mem_singleton.mp member
  | regrets => cases List.mem_singleton.mp member
  | proceeds | obeys | fires =>
    rcases List.mem_cons.mp member with same | member
    · cases same
    · cases List.mem_singleton.mp member
  | _ => cases member

theorem Booked.initial (setting : Setting) : Booked (.initial setting) .empty where
  errors _ := rfl
  lastError _ := rfl
  owed agent := by rw [parked_initial]; rfl
  balanced := List.Perm.refl _
  known agent _ _ _ member := by rw [parked_initial] at member; cases member

theorem Booked.turns (booked : Booked state books) {stack : List Frame}
    (turns : Turns state next agent stack signal) (kept : stack = state.stackOf agent) :
    Booked next books where
  errors number := by rw [turns.toShift.entry]; exact booked.errors number
  lastError number := by rw [turns.toShift.entry]; exact booked.lastError number
  owed other := by
    by_cases same : other = agent
    · rw [same, turns.stack, kept]; exact booked.owed agent
    · rw [turns.otherStacks other same]; exact booked.owed other
  balanced := booked.balanced
  known other number work args member := by
    rw [turns.toShift.entries]
    by_cases same : other = agent
    · rw [same, turns.stack, kept] at member
      exact booked.known agent number work args member
    · rw [turns.otherStacks other same] at member
      exact booked.known other number work args member

def IsCalm (state : State) : Prop :=
  ∀ agent frame rest signal, state.active ≠ some ⟨agent, frame :: rest, signal⟩

theorem IsCalm.of_idle (idle : state.active = none) : state.IsCalm :=
  fun _ _ _ _ active => by rw [idle] at active; cases active

theorem IsCalm.of_empty (active : state.active = some ⟨agent, [], signal⟩) : state.IsCalm :=
  fun _ _ _ _ other => by rw [active] at other; cases other

theorem IsCalm.reported (calm : state.IsCalm) : state.reported = [] := by
  unfold State.reported
  split
  · next active => exact absurd active (calm _ _ _ _)
  · rfl

theorem IsCalm.unreported (calm : state.IsCalm) : state.unreported = [] := by
  unfold State.unreported
  split
  · next active => exact absurd active (calm _ _ _ _)
  · rfl

theorem IsCalm.post (calm : state.IsCalm) : books.post state = books := by
  unfold Books.post
  rw [calm.reported, calm.unreported, Books.enter_nil]
  dsimp only
  split
  · next active => exact absurd active (calm _ _ _ _)
  · rfl

theorem post_report {report : Report}
    (active : state.active = some ⟨agent, .report report :: rest, signal⟩) :
    books.post state = books.close agent signal.isOk ∧ state.reported = [] ∧
      state.unreported = [] := by
  have none : state.reported = [] ∧ state.unreported = [] := by
    rw [reported, unreported, active]
    exact ⟨rfl, rfl⟩
  refine ⟨?_, none⟩
  unfold Books.post
  rw [none.1, none.2, Books.enter_nil, active]

theorem post_other (active : state.active = some ⟨agent, frame :: rest, signal⟩)
    (other : frame.report? = none) :
    books.post state = books.enter state.reported state.unreported := by
  unfold Books.post
  rw [active]
  cases frame <;> first | rfl | cases other

/-- What a runner owes after an answer: what it owed, and what was recorded. -/
theorem Booked.owed_after (booked : Booked state books) (sound : Sound state) {move : Move}
    (replied : Replied state later next agent frame rest signal move)
    (entered : Entered state later agent signal frame move) (other : Agent) :
    Note.reportsBy other (books.post state).owed =
      (next.stackOf other).filterMap Frame.report? := by
  have mine := booked.owed agent
  rw [stackOf_active replied.active] at mine
  have stacked : (next.stackOf agent).filterMap Frame.report? =
      move.reports ++ rest.filterMap Frame.report? := by
    rw [replied.turns.stack, List.filterMap_append]
    rfl
  have others : ∀ other, other ≠ agent → Note.reportsBy other books.owed =
      (next.stackOf other).filterMap Frame.report? := by
    intro other different
    rw [booked.owed other]
    rcases replied.stackOf_aside sound different with same | ⟨empty, trigger, begun⟩
    · rw [same]
    · rw [empty, begun]; rfl
  cases told : frame.report? with
  | none =>
    -- What is recorded is told before anything that was owed.
    rw [post_other replied.active told]
    rw [List.filterMap_cons_none told] at mine
    show Note.reportsBy other (state.reported ++ books.owed) = _
    rw [Note.reportsBy_append]
    by_cases same : other = agent
    · rw [same, entered.mine, mine, stacked]
    · rw [entered.others other same, others other same]
      rfl
  | some report =>
    obtain rfl := Frame.report_of_report? told
    -- The report lay on top, so it is the first that the runner owed.
    obtain ⟨post, none, -⟩ := post_report replied.active
    have mute : move.reports = [] := by rw [← entered.mine, none]; rfl
    rw [mute, List.nil_append] at stacked
    rw [post]
    obtain ⟨closed, kept⟩ := Books.close_owed mine signal.isOk
    by_cases same : other = agent
    · rw [same, closed, stacked]
    · rw [kept other same, others other same]

theorem Booked.answers (booked : Booked state books) (sound : Sound state) {move : Move}
    (replied : Replied state later next agent frame rest signal move)
    (entered : Entered state later agent signal frame move)
    (size : state.entries.size ≤ later.entries.size) : Booked next (books.post state) where
  errors number := by
    have counted := congrArg Tally.errors (entered.tally number)
    rw [replied.turns.toShift.entry, Books.post_recorded, Note.reportsOn_append,
      List.length_append, ← booked.errors]
    exact counted
  lastError number := by
    have counted := congrArg Tally.lastError (entered.tally number)
    rw [replied.turns.toShift.entry, Books.post_recorded, Note.reportsOn_append,
      List.getLast?_append]
    refine counted.trans ?_
    show Option.or _ (state.entry number).lastError = _
    rw [booked.lastError number]
    cases (Note.reportsOn number (state.reported ++ state.unreported)).getLast? <;> rfl
  owed := booked.owed_after sound replied entered
  balanced := booked.balanced.post state
  known other number work args member := by
    rw [replied.turns.toShift.entries]
    refine Nat.lt_of_lt_of_le ?_ size
    by_cases same : other = agent
    · rw [same, replied.turns.stack] at member
      rcases List.mem_append.mp member with member | member
      · obtain rfl := replied.reply.callback_of_calledBack member
        obtain ⟨-, trigger, -, owned⟩ := replied.fits sound
        exact sound.linked.range trigger number owned
      · refine booked.known agent number work args ?_
        rw [stackOf_active replied.active]
        exact List.mem_cons_of_mem _ member
    · rcases replied.stackOf_aside sound same with kept | ⟨-, trigger, begun⟩
      · exact booked.known other number work args (kept ▸ member)
      · rw [begun] at member
        cases List.mem_singleton.mp member

theorem Answered.size {result : State × Move} (answered : Answered state signal frame result) :
    state.entries.size ≤ result.1.entries.size := by
  cases answered with
  | quiet _ _ _ size => exact size
  | told _ _ _ _ records => exact records.size
  | drops _ _ _ _ _ records => exact records.size

theorem Booked.answered (booked : Booked state books) (sound : Sound state)
    (active : state.active = some ⟨agent, frame :: rest, signal⟩) :
    Answered state signal frame (state.answer agent signal frame) :=
  sound.answered active fun number work args same => booked.known agent number work args (by
    rw [stackOf_active active, same]
    exact List.mem_cons_self)

theorem Booked.step (booked : Booked state books) (sound : Sound state)
    (stepped : state.step = some next) : Booked next (books.post state) := by
  cases step_advance sound.awake stepped with
  | passes agent idle turns =>
    rw [(IsCalm.of_idle idle).post]
    exact booked.turns turns rfl
  | ends agent signal active turns =>
    rw [(IsCalm.of_empty active).post]
    exact booked.turns turns (stackOf_active active).symm
  | answers agent frame rest signal active same =>
    have answered := booked.answered sound active
    subst same
    exact booked.answers sound (sound.replied active) (answered.entered active) answered.size

theorem stackOf_main (finished : state.mainHasFinished = true) : state.stackOf .main = [] := by
  rw [stackOf_none (mainHasFinished_idle finished)]
  unfold mainHasFinished at finished
  split at finished
  · next _ main => rw [parked, main]; rfl
  · cases finished

theorem Booked.issue (booked : Booked state books) (finished : state.mainHasFinished = true)
    (operation : Operation) : Booked (state.issue operation) (books.post state) := by
  have idle := mainHasFinished_idle finished
  have turns : Turns state (state.issue operation) .main [.perform operation] (.ok .null) :=
    activateMain_turns idle _
  have empty := stackOf_main finished
  rw [(IsCalm.of_idle idle).post]
  refine ⟨fun number => ?_, fun number => ?_, fun agent => ?_, booked.balanced,
    fun agent number work args member => ?_⟩
  · rw [turns.toShift.entry]; exact booked.errors number
  · rw [turns.toShift.entry]; exact booked.lastError number
  · by_cases main : agent = .main
    · rw [main, turns.stack, booked.owed, empty]; rfl
    · rw [turns.otherStacks agent main]; exact booked.owed agent
  · rw [turns.toShift.entries]
    by_cases main : agent = .main
    · rw [main, turns.stack] at member
      cases List.mem_singleton.mp member
    · rw [turns.otherStacks agent main] at member
      exact booked.known agent number work args member

end State

namespace Trace

variable {setting : Setting} {past : List State} {state : State}

theorem booked (trace : Trace (.initial setting) past state) : state.Booked (.of past) := by
  induction trace with
  | refl => exact .initial setting
  | issue operation earlier finished ih => exact ih.issue finished operation
  | step earlier stepped ih => exact ih.step (earlier.sound (.initial setting)) stepped

end Trace

end Timetable
