import Timetable.Proofs.Chain.Single

/-! The stages of the thread of a trigger.

The thread of a trigger that was armed for a task waits, calls its work, and then settles the stop that
was issued against the trigger, if there is one. At every stage the deeds that were done so far, the stop
that is pending and the stack of the thread add up.
-/

set_option autoImplicit false

namespace Timetable

/-- The end of a run that a deed is, of a given trigger. -/
def Deed.runOf (trigger : Nat) : Deed → Option (Mode × Signal)
  | .ran _ other mode outcome => if other = trigger then some (mode, outcome) else none
  | _ => none

def Deed.settlementBy (trigger : Nat) : Deed → Option (Nat × Work × List Value)
  | .settled agent task callback args =>
    if agent = .thread trigger then some (task, callback, args) else none
  | _ => none

structure Ledger where
  stops : List (Nat × Work)
  runs : List (Mode × Signal)
  settlements : List (Nat × Work × List Value)

namespace Ledger

def empty : Ledger := ⟨[], [], []⟩

def append (first second : Ledger) : Ledger :=
  ⟨first.stops ++ second.stops, first.runs ++ second.runs, first.settlements ++ second.settlements⟩

def of (trigger : Nat) (history : List Deed) : Ledger where
  stops := history.filterMap (Deed.stopOf trigger)
  runs := history.filterMap (Deed.runOf trigger)
  settlements := history.filterMap (Deed.settlementBy trigger)

def nextArgs (ledger : Ledger) (args : List Value) : List Value :=
  match ledger.runs with
  | [] => args
  | (mode, outcome) :: _ => State.nextArgs mode args outcome

theorem of_append (trigger : Nat) (first second : List Deed) :
    of trigger (first ++ second) = (of trigger first).append (of trigger second) := by
  simp only [of, append, List.filterMap_append]

@[simp] theorem empty_append (ledger : Ledger) : empty.append ledger = ledger := rfl

structure IsOpen (number : Nat) (pending : Option Work) (ledger : Ledger) : Prop where
  stops : ledger.stops = (pending.map fun callback => (number, callback)).toList
  runs : ledger.runs = []
  settlements : ledger.settlements = []

def IsClosed (number : Nat) (args : List Value) (ledger : Ledger) : Prop :=
  ledger.stops = [] ∧ ledger.settlements = [] ∨
    ∃ callback, ledger.stops = [(number, callback)] ∧
      ledger.settlements = [(number, callback, ledger.nextArgs args)]

end Ledger

def Frame.isSpent : Frame → Bool
  | .dispatched _ _ | .calledBack _ _ _ => true
  | frame => frame.isCommon

def Frame.IsReport (frame : Frame) : Prop :=
  ∃ report, frame = .report report

/-- Frames above one that is sure to be resumed without a failure: errors are reported, or the sink of
errors is at work, whose failures do not go further. -/
def Shields (above : List Frame) (signal : Signal) : Prop :=
  (∃ value, signal = .ok value) ∧ (∀ frame ∈ above, frame.IsReport) ∨
    ∃ inner text reports, above = inner ++ .sunk text :: reports ∧
      (∀ frame ∈ inner, frame.isCommon = true) ∧ ∀ frame ∈ reports, frame.IsReport

structure Frame.Answers (frame : Frame) (signal : Signal) (move : Move) : Prop where
  plain : move.IsPlain
  report : frame.IsReport → (∃ value, signal = .ok value) →
    (∃ value, move.signal = .ok value) ∧
      (move.frames = [] ∨ ∃ first text, move.frames = [first, .sunk text] ∧ first.isPlain = true)
  sunk : ∀ text, frame = .sunk text →
    (∀ failure, signal = .error failure → failure.leaves = false) →
    move.frames = [] ∧ ∃ value, move.signal = .ok value

/-- How the thread of a trigger stands, and its task with it. -/
structure Standing where
  stack : List Frame
  signal : Signal
  pending : Option Work
  held : Option Nat
  outcome : Option Outcome

/-- The stages of the thread of a trigger of a task. -/
inductive Stage (number trigger : Nat) (args : List Value) (standing : Standing)
    (ledger : Ledger) : Prop where
  | waits (frame : Frame) (value : Value) : frame.CountsDown trigger →
      standing.stack = [frame] → standing.signal = .ok value →
      standing.outcome = none ∨ standing.outcome = some .redirect →
      ledger.IsOpen number standing.pending → Stage number trigger args standing ledger
  /-- The trigger is about to fire, or to settle. -/
  | calls (target : Work) (value : Value) :
      target = .fire number trigger ∨ target = .settle number trigger →
      standing.stack = [.call target args, .dispatched trigger target] →
      standing.signal = .ok value → ledger.IsOpen number standing.pending →
      Stage number trigger args standing ledger
  | runs (above : List Frame) (mode : Mode) (work : Work) :
      (∀ frame ∈ above, frame.isCommon = true) →
      standing.stack = above ++ [.fired number trigger args mode work,
        .dispatched trigger (.fire number trigger)] →
      ledger.IsOpen number standing.pending → Stage number trigger args standing ledger
  /-- The run could not be begun, or no further one could be armed. -/
  | fails (failure : Failure) :
      standing.stack = [.dispatched trigger (.fire number trigger)] →
      standing.signal = .error failure →
      ledger.IsOpen number standing.pending ∨
        standing.pending = none ∧ ledger.stops = [] ∧ ledger.settlements = [] →
      Stage number trigger args standing ledger
  /-- The callback of the stop is about to be called. -/
  | settles (above below : List Frame) (callback : Work) :
      standing.stack = above ++ .callback number callback (ledger.nextArgs args) :: below →
      Shields above standing.signal → (∀ frame ∈ below, frame.isSpent = true) →
      standing.pending = none → standing.held ≠ some trigger →
      ledger.stops = [(number, callback)] → ledger.settlements = [] →
      Stage number trigger args standing ledger
  | finished : (∀ frame ∈ standing.stack, frame.isSpent = true) → standing.pending = none →
      standing.held ≠ some trigger → ledger.IsClosed number args →
      Stage number trigger args standing ledger

inductive Beside (number trigger : Nat) (deeds : List Deed) (before after : Standing) : Prop where
  | spared : Ledger.of trigger deeds = .empty → after.pending = before.pending →
      (after.held = some trigger → before.held = some trigger) →
      after.outcome = before.outcome → Beside number trigger deeds before after
  | stopped (callback : Work) : Ledger.of trigger deeds = ⟨[(number, callback)], [], []⟩ →
      before.held = some trigger → before.pending = none → after.pending = some callback →
      after.outcome = some (before.outcome.getD .redirect) →
      Beside number trigger deeds before after

variable {number trigger : Nat} {args : List Value} {before after : Standing}
  {ledger : Ledger} {deeds : List Deed}

theorem Frame.isSpent_of_isCommon {frame : Frame} (common : frame.isCommon = true) :
    frame.isSpent = true := by
  cases frame <;> first | rfl | exact common

theorem Frame.IsReport.isSpent {frame : Frame} (report : frame.IsReport) :
    frame.isSpent = true := by
  obtain ⟨_, rfl⟩ := report
  rfl

theorem above_eq_nil {kind : Frame → Bool} {frame : Frame} {above below rest : List Frame}
    (all : ∀ added ∈ above, kind added = true) (stack : frame :: rest = above ++ below)
    (other : kind frame = false) : above = [] := by
  cases above with
  | nil => rfl
  | cons first above =>
    obtain ⟨rfl, -⟩ := List.cons.inj stack
    rw [all _ List.mem_cons_self] at other
    cases other

theorem Shields.isCommon {above : List Frame} {signal : Signal} (shields : Shields above signal) :
    ∀ frame ∈ above, frame.isCommon = true := by
  have told : ∀ {frame : Frame}, frame.IsReport → frame.isCommon = true := by
    rintro _ ⟨_, rfl⟩
    rfl
  intro frame member
  rcases shields with ⟨-, reports⟩ | ⟨inner, text, reports, rfl, within, reported⟩
  · exact told (reports frame member)
  · rcases List.mem_append.mp member with member | member
    · exact within frame member
    · rcases List.mem_cons.mp member with rfl | member
      · rfl
      · exact told (reported frame member)

theorem Shields.resumes {signal : Signal} (shields : Shields [] signal) :
    ∃ value, signal = .ok value := by
  rcases shields with ⟨fine, -⟩ | ⟨inner, text, reports, eq, -⟩
  · exact fine
  · cases inner <;> cases eq

theorem Shields.goesOn {frame : Frame} {above : List Frame} {signal : Signal} {move : Move}
    (shields : Shields (frame :: above) signal) (answers : frame.Answers signal move)
    (civil : ∀ text failure, frame = .sunk text → signal = .error failure →
      failure.leaves = false) : Shields (move.frames ++ above) move.signal := by
  rcases shields with ⟨⟨value, ok⟩, reports⟩ | ⟨inner, text, reports, eq, within, reported⟩
  · have further : ∀ other ∈ above, other.IsReport :=
      fun other member => reports other (List.mem_cons_of_mem _ member)
    obtain ⟨fine, none | ⟨script, text, called, plain⟩⟩ :=
      answers.report (reports frame List.mem_cons_self) ⟨value, ok⟩
    · exact .inl ⟨fine, by rw [none]; exact further⟩
    · refine .inr ⟨[script], text, above, by rw [called]; rfl, fun other member => ?_, further⟩
      rw [List.mem_singleton.mp member]
      exact Frame.isCommon_of_isPlain plain
  · cases inner with
    | nil =>
      obtain ⟨rfl, rfl⟩ := List.cons.inj eq
      obtain ⟨none, fine⟩ := answers.sunk text rfl fun failure => civil text failure rfl
      exact .inl ⟨fine, by rw [none]; exact reported⟩
    | cons top inner =>
      obtain ⟨rfl, rfl⟩ := List.cons.inj eq
      refine .inr ⟨move.frames ++ inner, text, reports, (List.append_assoc ..).symm,
        fun other member => ?_, reported⟩
      rcases List.mem_append.mp member with member | member
      · exact Frame.isCommon_of_isPlain (answers.plain other member)
      · exact within other (List.mem_cons_of_mem _ member)

namespace Ledger

theorem IsOpen.beside (opened : ledger.IsOpen number before.pending)
    (beside : Beside number trigger deeds before after) :
    ((of trigger deeds).append ledger).IsOpen number after.pending := by
  cases beside with
  | spared unconcerned pending =>
    rw [unconcerned, pending]
    exact opened
  | stopped callback concerned held free pending =>
    have stops := opened.stops
    rw [free] at stops
    rw [concerned, pending]
    refine ⟨?_, opened.runs, opened.settlements⟩
    show [(number, callback)] ++ ledger.stops = _
    rw [stops]; rfl

theorem IsOpen.nextArgs (pending : Option Work) (opened : ledger.IsOpen number pending) :
    ledger.nextArgs args = args := by
  rw [Ledger.nextArgs, opened.runs]

end Ledger

namespace Stage

/-- A stage lasts while others act, and while requests are answered that leave the stack as it is. -/
theorem beside (stage : Stage number trigger args before ledger)
    (beside : Beside number trigger deeds before after) (stack : after.stack = before.stack)
    (signal : after.signal = before.signal)
    (top : ∀ failure, before.signal = .error failure →
      ∃ frame rest, before.stack = frame :: rest ∧ frame.isCommon = true) :
    Stage number trigger args after ((Ledger.of trigger deeds).append ledger) := by
  have released : before.pending = none → before.held ≠ some trigger →
      Ledger.of trigger deeds = .empty ∧ after.pending = none ∧ after.held ≠ some trigger := by
    intro pending free
    cases beside with
    | spared unconcerned same held outcome =>
      exact ⟨unconcerned, same.trans pending, fun holds => free (held holds)⟩
    | stopped callback concerned held => exact absurd held free
  cases stage with
  | waits frame value counts stacked ok undecided opened =>
    refine .waits frame value counts (stack.trans stacked) (signal.trans ok) ?_
      (opened.beside beside)
    cases beside with
    | spared unconcerned pending held outcome => rw [outcome]; exact undecided
    | stopped callback concerned held free pending outcome =>
      right
      rcases undecided with undecided | redirected
      · rw [outcome, undecided]; rfl
      · rw [outcome, redirected]; rfl
  | calls target value either stacked ok opened =>
    exact .calls target value either (stack.trans stacked) (signal.trans ok) (opened.beside beside)
  | runs above mode work common stacked opened =>
    exact .runs above mode work common (stack.trans stacked) (opened.beside beside)
  | fails failure stacked failed opened =>
    obtain ⟨frame, rest, same, common⟩ := top failure failed
    cases stacked.symm.trans same
    cases common
  | settles above below callback stacked shields spent pending held stops unsettled =>
    obtain ⟨unconcerned, free, letGo⟩ := released pending held
    rw [unconcerned, Ledger.empty_append]
    exact .settles above below callback (stack.trans stacked) (signal ▸ shields) spent free letGo
      stops unsettled
  | finished spent pending held closed =>
    obtain ⟨unconcerned, free, letGo⟩ := released pending held
    rw [unconcerned, Ledger.empty_append]
    exact .finished (fun frame member => spent frame (stack ▸ member)) free letGo closed

theorem goesOn (stage : Stage number trigger args before ledger) {frame : Frame}
    {rest : List Frame} {move : Move} (stacked : before.stack = frame :: rest)
    (common : frame.isCommon = true) (answers : frame.Answers before.signal move)
    (civil : ∀ failure, before.signal = .error failure → failure.leaves = false) :
    Stage number trigger args
      { before with stack := move.frames ++ rest, signal := move.signal } ledger := by
  have plainly : ∀ added ∈ move.frames, added.isCommon = true :=
    fun added member => Frame.isCommon_of_isPlain (answers.plain added member)
  have finished : ∀ {frames others : List Frame}, (∀ other ∈ others, other.isCommon = true) →
      (∀ added ∈ frames, added.isCommon = true) →
      ∀ other ∈ frames ++ others, other.isCommon = true := by
    intro frames others first second other member
    exact (List.mem_append.mp member).elim (second other) (first other)
  cases stage with
  | waits first value counts same =>
    cases stacked.symm.trans same
    cases counts <;> cases common
  | calls target value either same =>
    cases stacked.symm.trans same
    rcases either with rfl | rfl <;> cases common
  | runs above mode work allCommon same opened =>
    cases above with
    | nil => cases stacked.symm.trans same; cases common
    | cons first above =>
      obtain ⟨rfl, rfl⟩ := List.cons.inj (stacked.symm.trans same)
      refine .runs (move.frames ++ above) mode work (finished (fun other member =>
        allCommon other (List.mem_cons_of_mem _ member)) plainly) ?_ opened
      exact (List.append_assoc ..).symm
  | fails failure same => cases stacked.symm.trans same; cases common
  | settles above below callback same shields spent pending held stops unsettled =>
    cases above with
    | nil => cases stacked.symm.trans same; cases common
    | cons first above =>
      obtain ⟨rfl, rfl⟩ := List.cons.inj (stacked.symm.trans same)
      exact .settles (move.frames ++ above) below callback (List.append_assoc ..).symm
        (shields.goesOn answers fun _ failure _ => civil failure) spent pending held stops unsettled
  | finished spent pending held closed =>
    refine .finished (fun other member => ?_) pending held closed
    rcases List.mem_append.mp member with member | member
    · exact Frame.isSpent_of_isCommon (plainly other member)
    · exact spent other (stacked ▸ List.mem_cons_of_mem _ member)

/-- The thread of the trigger has taken the stop that was pending, and is to call its callback if there
is one. -/
theorem taken (pending : Option Work) (given : List Value) (reports below : List Frame)
    (stacked : after.stack = reports ++ State.callbackFrames number pending given ++ below)
    (fine : ∃ value, after.signal = .ok value)
    (reported : ∀ frame ∈ reports, frame.IsReport)
    (spent : ∀ frame ∈ below, frame.isSpent = true) (free : after.pending = none)
    (released : after.held ≠ some trigger)
    (stops : ledger.stops = (pending.map fun callback => (number, callback)).toList)
    (unsettled : ledger.settlements = [])
    (next : pending ≠ none → given = ledger.nextArgs args) :
    Stage number trigger args after ledger := by
  cases pending with
  | none =>
    refine .finished (fun frame member => ?_) free released (.inl ⟨stops, unsettled⟩)
    rw [stacked] at member
    rcases List.mem_append.mp member with member | member
    · rcases List.mem_append.mp member with member | member
      · exact (reported frame member).isSpent
      · cases member
    · exact spent frame member
  | some callback =>
    refine .settles reports below callback ?_ (.inl ⟨fine, reported⟩) spent free released stops
      unsettled
    rw [stacked, next (by rintro ⟨⟩), List.append_assoc]
    rfl

end Stage

namespace State

variable {state later next : State} {agent : Agent}

def standing (state : State) (number trigger : Nat) : Standing where
  stack := state.stackOf (.thread trigger)
  signal := state.signalOf (.thread trigger)
  pending := (state.entry number).stopCallback? trigger
  held := (state.entry number).trigger
  outcome := state.outcome trigger

theorem Turns.standing {stack : List Frame} {signal : Signal}
    (turns : Turns later next (.thread trigger) stack signal) : next.standing number trigger =
      { later.standing number trigger with stack, signal } := by
  simp only [State.standing, turns.stack, turns.signal, turns.toShift.entry,
    turns.toShift.outcome]

theorem Turns.standing_other {stack : List Frame} {signal : Signal}
    (turns : Turns later next agent stack signal) (other : agent ≠ .thread trigger) :
    next.standing number trigger = later.standing number trigger := by
  simp only [State.standing, turns.otherStacks _ other.symm, turns.otherSignals _ other.symm,
    turns.toShift.entry, turns.toShift.outcome]

theorem Turns.standing_idle (turns : Turns state next agent (state.stackOf agent) (.ok .null))
    (idle : state.active = none) (number trigger : Nat) :
    next.standing number trigger = state.standing number trigger := by
  by_cases own : agent = .thread trigger
  · subst own
    rw [turns.standing, State.standing, signalOf_none idle]
  · exact turns.standing_other own

theorem Reply.of_isCommon {signal : Signal} {frame : Frame} {move : Move}
    (common : frame.isCommon = true) (reply : Reply state agent signal frame later move) :
    move.IsPlain ∧ Effect state (state.frameDeeds agent signal frame) later := by
  have counts : ∀ {trigger}, ¬ frame.CountsDown trigger := by
    rintro trigger (_ | _) <;> cases common
  cases reply with
  | plain _ none unmoved plain => exact ⟨plain, none ▸ unmoved.neutral.effect⟩
  | request _ effect plain => exact ⟨plain, effect⟩
  | passed uncommon => rw [common] at uncommon; cases uncommon
  | waits _ _ down | proceeds down | obeys down | cancelled down | breaks _ down =>
    exact absurd down counts
  | _ => cases common

theorem answer_answers (tidy : state.Tidy) {frame : Frame} (common : frame.isCommon = true)
    (signal : Signal) : frame.Answers signal (state.answer agent signal frame).2 := by
  have counts : ∀ trigger, frame.CountsDown trigger → trigger < state.triggers.size := by
    rintro trigger (_ | _) <;> cases common
  have reply := answer_reply agent tidy signal frame counts
  refine ⟨?_, ?_, ?_⟩
  · exact (reply.of_isCommon common).1
  · rintro ⟨report, rfl⟩ ⟨value, rfl⟩
    rcases (state.tellReport_move report).2 with given | ⟨turn, sink, text, sunk⟩
    · exact ⟨⟨.null, congrArg Move.signal given⟩, .inl (congrArg Move.frames given)⟩
    · exact ⟨⟨.null, congrArg Move.signal sunk⟩,
        .inr ⟨_, text, congrArg Move.frames sunk, rfl⟩⟩
  · rintro text rfl civil
    cases signal with
    | ok value => exact ⟨rfl, .null, rfl⟩
    | error failure =>
      have mild := civil failure rfl
      show (State.handle state failure (.sunk text)).2.frames = [] ∧
        ∃ value, (State.handle state failure (.sunk text)).2.signal = .ok value
      unfold handle
      rw [if_neg (by rw [mild]; rintro ⟨⟩)]
      exact ⟨rfl, .null, rfl⟩

/-! ### What others do -/

theorem Effect.kinds (effect : Effect state deeds later) : ∀ deed ∈ deeds,
    (∃ number, deed = .started number) ∨
      ∃ number trigger callback, deed = .stopped number trigger callback := by
  induction effect with
  | neutral => exact fun _ member => absurd member List.not_mem_nil
  | start => exact fun deed member => .inl ⟨_, List.mem_singleton.mp member⟩
  | stop => exact fun deed member => .inr ⟨_, _, _, List.mem_singleton.mp member⟩
  | trans _ _ first second =>
    exact fun deed member => (List.mem_append.mp member).elim (first deed) (second deed)

theorem Effect.ledger_of (effect : Effect state deeds later) : Ledger.of trigger deeds =
    ⟨deeds.filterMap (Deed.stopOf trigger), [], []⟩ := by
  have kinds := effect.kinds
  have runs : deeds.filterMap (Deed.runOf trigger) = [] := by
    apply List.filterMap_eq_nil_iff.mpr
    intro deed member
    rcases kinds deed member with ⟨_, rfl⟩ | ⟨_, _, _, rfl⟩ <;> rfl
  have settlements : deeds.filterMap (Deed.settlementBy trigger) = [] := by
    apply List.filterMap_eq_nil_iff.mpr
    intro deed member
    rcases kinds deed member with ⟨_, rfl⟩ | ⟨_, _, _, rfl⟩ <;> rfl
  rw [Ledger.of, runs, settlements]

/-- What frames at work for one trigger do does not concern another. -/
theorem ledger_frameDeeds (signal : Signal) {frame : Frame} (fits : Fits state agent frame)
    (uncommon : frame.isCommon = false) (other : agent ≠ .thread trigger) :
    Ledger.of trigger (state.frameDeeds agent signal frame) = .empty := by
  cases frame with
  | fired task mine args mode work =>
    have different : mine ≠ trigger := fun same => other (same ▸ fits.1)
    cases signal with
    | ok value => simp [frameDeeds, Ledger.of, Deed.stopOf, Deed.runOf, Deed.settlementBy,
        Ledger.empty, different]
    | error failure =>
      by_cases leaves : failure.leaves = true
      · simp [frameDeeds, leaves, Ledger.of, Ledger.empty]
      · simp [frameDeeds, leaves, Ledger.of, Deed.stopOf, Deed.runOf, Deed.settlementBy,
          Ledger.empty, different]
  | callback task work args =>
    cases signal with
    | ok value => simp [frameDeeds, Ledger.of, Deed.stopOf, Deed.runOf, Deed.settlementBy,
        Ledger.empty, other]
    | error failure => rfl
  | call work args =>
    cases work <;> first | (cases signal <;> rfl) | cases uncommon
  | _ => first | (cases signal <;> rfl) | cases uncommon

inductive Apart (number trigger : Nat) (deeds : List Deed) (state later : State) : Prop where
  | spared : Ledger.of trigger deeds = .empty →
      (later.entry number).stopCallback? trigger = (state.entry number).stopCallback? trigger →
      ((later.entry number).trigger = some trigger → (state.entry number).trigger = some trigger) →
      later.outcome trigger = state.outcome trigger → Apart number trigger deeds state later
  | stopped (callback : Work) : Ledger.of trigger deeds = ⟨[(number, callback)], [], []⟩ →
      state.stoppable? number = some trigger → later.stoppable? number ≠ some trigger →
      (later.entry number).stopCallback? trigger = some callback →
      later.outcome trigger = some ((state.outcome trigger).getD .redirect) →
      Apart number trigger deeds state later

/-- What a step does to a trigger of a task, unless the thread of the trigger is at work on it. -/
theorem Replied.apart (sound : Sound state) {frame : Frame} {rest : List Frame} {signal : Signal}
    (active : state.active = some ⟨agent, frame :: rest, signal⟩)
    (owned : state.owner trigger = some number)
    (apart : agent ≠ .thread trigger ∨ frame.isCommon = true) :
    Apart number trigger (state.frameDeeds agent signal frame) state
      (state.answer agent signal frame).1 := by
  have replied := sound.replied active
  have reply := replied.reply
  have grows := reply.grows sound.linked
  have within := Local.within_of_owner owned
  have kept := grows.owner _ _ owned
  have spared : ∀ {who : Agent} {deeds : List Deed},
      Keeps who deeds state (state.answer agent signal frame).1 → who ≠ .thread trigger →
      Ledger.of trigger (state.frameDeeds agent signal frame) = .empty →
      deeds.filterMap (Deed.stopOf trigger) = [] →
      Apart number trigger (state.frameDeeds agent signal frame) state
        (state.answer agent signal frame).1 := by
    intro who deeds keeps different unconcerned unstopped
    obtain ⟨pending, outcome⟩ := keeps.unstopped different (by rw [kept]; rintro ⟨⟩) unstopped
    exact .spared unconcerned (pending number) (keeps.held number trigger within) outcome
  by_cases common : frame.isCommon = true
  · obtain ⟨-, effect⟩ := reply.of_isCommon common
    by_cases started : ∃ task, .started task ∈ state.frameDeeds agent signal frame
    · obtain ⟨task, member⟩ := started
      have starts := starts_of_deeds member
      obtain ⟨mode, args, answer⟩ := starts.answer
      refine spared (?_ : Keeps .main [] state _) (by rintro ⟨⟩) ?_ rfl
      · rw [answer]; exact .startChain mode args starts.idle
      · rw [starts.deeds]; rfl
    · have none := fun task member => started ⟨task, member⟩
      cases effect.stops sound.linked none owned with
      | none unstopped kept =>
        refine spared (.effect effect : Keeps .main _ state _) (by rintro ⟨⟩) ?_ unstopped
        rw [effect.ledger_of, unstopped]; rfl
      | once callback stopped stoppable finished pending decided =>
        refine .stopped callback ?_ stoppable finished pending decided
        rw [effect.ledger_of, stopped]
  · have uncommon : frame.isCommon = false := by simpa using common
    have other := apart.resolve_right common
    have unconcerned := ledger_frameDeeds signal (replied.fits sound) uncommon other
    exact spared (.reply (replied.fits sound) reply) other unconcerned
      (congrArg Ledger.stops unconcerned)

theorem Apart.beside (apart : Apart number trigger deeds state later) (single : Single state) :
    Beside number trigger deeds (state.standing number trigger)
      (later.standing number trigger) := by
  cases apart with
  | spared unconcerned pending held outcome => exact .spared unconcerned pending held outcome
  | stopped callback concerned stoppable finished pending decided =>
    exact .stopped callback concerned (stoppable?_iff.mp stoppable).2 (single _ _ stoppable)
      pending decided

/-! ### What the thread of a trigger does -/

theorem endChain_takes (within : number < state.entries.size) (trigger : Nat) :
    ((state.endChain number trigger).1.entry number).stopCallback? trigger = none ∧
      ((state.endChain number trigger).1.entry number).trigger ≠ some trigger := by
  unfold endChain
  dsimp only
  rw [entry_updateEntry_self within]
  exact ⟨(stopCallback?_release _ _ _).trans (if_pos rfl), fun held => (held_release held).2 rfl⟩

theorem abandonChain_takes (within : number < state.entries.size) (trigger : Nat)
    (report : Report) :
    ((state.abandonChain number trigger report).1.entry number).stopCallback? trigger = none ∧
      ((state.abandonChain number trigger report).1.entry number).trigger ≠ some trigger := by
  have dropped : ∀ {middle : State}, number < middle.entries.size →
      (middle.entry number).trigger ≠ some trigger →
      ((middle.updateEntry number fun entry => entry.dropStop trigger).entry number).stopCallback?
          trigger = none ∧
        ((middle.updateEntry number fun entry => entry.dropStop trigger).entry number).trigger ≠
          some trigger := by
    intro middle size released
    rw [entry_updateEntry_self size]
    exact ⟨(stopCallback?_dropStop _ _ _).trans (if_pos rfl), released⟩
  unfold State.abandonChain
  dsimp only
  split
  · apply dropped (Nat.lt_of_lt_of_eq within (Store.size_update ..).symm)
    rw [(chain_breakOff _ _ _).2.1]
    rintro ⟨⟩
  · next released =>
    refine dropped (Nat.lt_of_lt_of_eq within (Store.size_update ..).symm) fun held => released ?_
    exact ((Neutral.countError state number report).held number).symm.trans held

theorem complain_takes (linked : Linked state) (owned : state.owner trigger = some number)
    (target : Work) (stage : String) (failure : Failure) :
    ((state.complain trigger target stage failure).1.entry number).stopCallback? trigger = none ∧
      ((state.complain trigger target stage failure).1.entry number).trigger ≠ some trigger ∧
      ∃ report text, (state.complain trigger target stage failure).2 =
        .go ([.report report] ++ callbackFrames number
          ((state.entry number).stopCallback? trigger) (state.trigger trigger).args ++
            [.sunk text]) := by
  obtain ⟨report, text, args, eq⟩ := complain_owned owned target stage failure
  obtain ⟨taken, released⟩ :=
    abandonChain_takes (linked.range trigger number owned) trigger report
  rw [eq]
  refine ⟨taken, released, report, text, ?_⟩
  rw [← args]
  rfl

theorem Arming.releases {report : Option Report} (within : number < state.entries.size)
    (old : trigger < state.triggers.size) (arming : Arming state number args later (.ok report)) :
    (later.entry number).trigger ≠ some trigger := by
  have becomes := arming.becomes within
  generalize later.entry number = after at becomes ⊢
  cases becomes with
  | brokenOff => rintro ⟨⟩
  | armed due => exact fun same => Nat.ne_of_gt old (Option.some.inj same)

/-- The end of a run: the chain goes on or breaks off, or the stop is taken. -/
theorem Ending.stage (linked : Linked state) (single : Single state)
    (owned : state.owner trigger = some number) {mode : Mode} {outcome : Signal} {move : Move}
    (ending : Ending state number trigger args mode outcome later move) {before : Ledger}
    (opened : before.IsOpen number ((state.entry number).stopCallback? trigger)) :
    Stage number trigger args
      { later.standing number trigger with
        stack := move.frames ++ [.dispatched trigger (.fire number trigger)]
        signal := move.signal }
      ((⟨[], [(mode, outcome)], []⟩ : Ledger).append before) := by
  have within := linked.range trigger number owned
  have old := Local.within_of_owner owned
  have told : ∀ reports : List Report, ∀ frame ∈ reports.map Frame.report, frame.IsReport := by
    intro reports frame member
    obtain ⟨report, -, same⟩ := List.mem_map.mp member
    exact ⟨report, same.symm⟩
  have spent : ∀ frame ∈ [Frame.dispatched trigger (.fire number trigger)],
      frame.isSpent = true := by
    intro frame member
    rw [List.mem_singleton.mp member]; rfl
  cases ending with
  | @goesOn noted _ result _ counted running held arming failed done =>
    have neutral := counted.neutral
    have free := single number trigger (stoppable?_iff.mpr ⟨running, held⟩)
    have unstopped : before.stops = [] := by rw [opened.stops, free]; rfl
    have pending : (later.entry number).stopCallback? trigger = none := by
      rw [arming.stopCallback?, Entry.stopCallback?, neutral.stops]
      exact free
    cases result with
    | error failure =>
      rw [failed failure rfl]
      exact .fails failure rfl rfl (.inr ⟨pending, unstopped, opened.settlements⟩)
    | ok report =>
      obtain ⟨reports, same⟩ := done report rfl
      have released := arming.releases (Nat.lt_of_lt_of_le within neutral.entries)
        (Nat.lt_of_lt_of_le old neutral.triggers)
      rw [same]
      refine .taken none args (reports.map .report) _ ?_
        ⟨.null, rfl⟩ (told reports) spent pending released unstopped opened.settlements
        (fun absent => absurd rfl absent)
      exact (congrArg (· ++ _) (List.append_nil _)).symm
  | @finished noted reports counted finished =>
    have neutral := counted.neutral
    obtain ⟨taken, released⟩ := endChain_takes (Nat.lt_of_lt_of_le within neutral.entries) trigger
    have same : (noted.entry number).stopCallback? trigger =
        (state.entry number).stopCallback? trigger := by
      rw [Entry.stopCallback?, neutral.stops]; rfl
    refine .taken ((noted.entry number).stopCallback? trigger) _ _ _ rfl ⟨.null, rfl⟩
      (told reports) spent taken released ?_ opened.settlements fun _ => rfl
    rw [same]
    exact opened.stops

theorem Reply.redirected (linked : Linked state) (owned : state.owner trigger = some number)
    {frame : Frame} {value : Value} {move : Move} (counts : frame.CountsDown trigger)
    (redirected : state.outcome trigger = some .redirect)
    (reply : Reply state (.thread trigger) (.ok value) frame later move) :
    Unmoved state later ∧ move = .go [.call (.settle number trigger) (state.trigger trigger).args,
      .dispatched trigger (.settle number trigger)] := by
  have taken : state.outcome trigger ≠ none := by rw [redirected]; rintro ⟨⟩
  cases reply.counted counts with
  | waits _ _ undecided | proceeds undecided | breaks _ undecided => exact absurd undecided taken
  | obeys called unmoved =>
    rcases linked.target?_owned called owned with ⟨proceed, -⟩ | ⟨-, rfl⟩
    · rw [redirected] at proceed; cases proceed
    · exact ⟨unmoved, rfl⟩
  | cancelled _ absent =>
    have settles := linked.redirect trigger number owned redirected
    rw [outcome] at redirected
    rw [Trigger.target?, redirected, settles] at absent
    cases absent

/-- The thread of a trigger counts down: it waits on, calls the work of the trigger, or breaks. -/
theorem Reply.waits_stage (sound : Sound state) (owned : state.owner trigger = some number)
    {frame : Frame} {value : Value} {move : Move} {before : Ledger}
    (reply : Reply state (.thread trigger) (.ok value) frame later move)
    (counts : frame.CountsDown trigger)
    (undecided : state.outcome trigger = none ∨ state.outcome trigger = some .redirect)
    (opened : before.IsOpen number ((state.entry number).stopCallback? trigger)) :
    Stage number trigger (state.trigger trigger).args
      { later.standing number trigger with stack := move.frames ++ [], signal := move.signal }
      before := by
  have linked := sound.linked
  have same : ∀ {middle : State}, Unmoved state middle →
      before.IsOpen number ((middle.entry number).stopCallback? trigger) := by
    intro middle unmoved
    rw [unmoved.entry]
    exact opened
  cases reply.counted counts with
  | waits pause deadline _ unmoved =>
    refine .waits (.waited _) .null (.waited _) rfl rfl ?_ (same unmoved)
    show later.outcome _ = none ∨ later.outcome _ = some .redirect
    rw [unmoved.outcome]
    exact undecided
  | proceeds =>
    refine .calls (.fire number _) .null (.inl rfl) ?_ rfl ?_
    · rw [linked.work _ number owned]; rfl
    · show before.IsOpen number ((State.entry _ number).stopCallback? _)
      rw [entry_commit]
      exact opened
  | obeys called unmoved =>
    rcases linked.target?_owned called owned with ⟨-, rfl⟩ | ⟨-, rfl⟩
    · exact .calls _ .null (.inl rfl) rfl rfl (same unmoved)
    · exact .calls _ .null (.inr rfl) rfl rfl (same unmoved)
  | cancelled decided none unmoved =>
    have redirected := undecided.resolve_left decided
    have settles := linked.redirect _ number owned redirected
    unfold Trigger.target? at none
    rw [outcome] at redirected
    rw [redirected, settles] at none
    cases none
  | breaks fault free =>
    have pending : (state.entry number).stopCallback? trigger = none := by
      cases found : (state.entry number).stopCallback? trigger with
      | none => rfl
      | some callback =>
        exact absurd free ((linked.tasks number).stops _ (mem_of_lookup found)).2.2.1
    obtain ⟨taken, released, report, text, move⟩ := complain_takes
      (linked.commit trigger (show Outcome.cancel ≠ .redirect by decide))
      ((owner_commit state trigger .cancel none trigger).trans owned) (state.trigger trigger).work
      "waiting for" fault.failure
    generalize (state.commit trigger .cancel none).1.complain trigger (state.trigger trigger).work
      "waiting for" fault.failure = result at taken released move ⊢
    rw [move]
    rw [pending] at opened
    refine .taken none (state.trigger trigger).args [.report report] [.sunk text] ?_ ⟨.null, rfl⟩ ?_
      ?_ taken released
      opened.stops opened.settlements fun absent => absurd rfl absent
    · rw [entry_commit, pending]; rfl
    · exact fun frame member => ⟨report, List.mem_singleton.mp member⟩
    · intro frame member
      rw [List.mem_singleton.mp member]; rfl

theorem Reply.calls_stage (sound : Sound state) (owned : state.owner trigger = some number)
    {target : Work} {value : Value} {move : Move} {before : Ledger}
    (either : target = .fire number trigger ∨ target = .settle number trigger)
    (reply : Reply state (.thread trigger) (.ok value) (.call target args) later move)
    (opened : before.IsOpen number ((state.entry number).stopCallback? trigger)) :
    Stage number trigger args
      { later.standing number trigger with
        stack := move.frames ++ [.dispatched trigger target]
        signal := move.signal } before := by
  have linked := sound.linked
  rcases either with rfl | rfl
  · rcases reply.of_fire with ⟨fault, -, rfl, rfl⟩ | ⟨time, -, unmoved, rfl⟩
    · exact .fails _ rfl rfl (.inl opened)
    · refine .runs [.call (state.entry number).work args] (state.entry number).mode
        (state.entry number).work (fun frame member => ?_) rfl ?_
      · rw [List.mem_singleton.mp member]
        exact Work.isCallback_of_isGiven (linked.tidy.works number)
      · show before.IsOpen number ((later.entry number).stopCallback? trigger)
        rw [unmoved.entry, Entry.stopCallback?, (Neutral.noteRun state number time).stops]
        exact opened
  · obtain ⟨rfl, rfl⟩ := reply.of_settle
    obtain ⟨taken, released⟩ := endChain_takes (linked.range trigger number owned) trigger
    refine .taken _ _ [] _ rfl ⟨.null, rfl⟩
      (fun _ member => absurd member List.not_mem_nil) (fun frame member => ?_) taken released
      opened.stops opened.settlements fun _ => ?_
    · rw [List.mem_singleton.mp member]; rfl
    · exact (opened.nextArgs _).symm

theorem ledger_fired {mode : Mode} {work : Work} {signal : Signal}
    (civil : ∀ failure, signal = .error failure → failure.leaves = false) :
    Ledger.of trigger (state.frameDeeds (.thread trigger) signal
      (.fired number trigger args mode work)) = ⟨[], [(mode, signal)], []⟩ := by
  cases signal with
  | ok value => simp [frameDeeds, Ledger.of, Deed.stopOf, Deed.runOf, Deed.settlementBy]
  | error failure =>
    simp [frameDeeds, civil failure rfl, Ledger.of, Deed.stopOf, Deed.runOf, Deed.settlementBy]

theorem Reply.endsRun {mode : Mode} {work : Work} {signal : Signal} {move : Move}
    (reply : Reply state agent signal (.fired number trigger args mode work) later move)
    (civil : ∀ failure, signal = .error failure → failure.leaves = false) :
    (later, move) = state.endRun number trigger args mode work signal := by
  refine reply.of_fired.resolve_left ?_
  rintro ⟨failure, failed, leaves, -⟩
  rw [civil failure failed] at leaves
  cases leaves

theorem Reply.runs_stage (sound : Sound state) (single : Single state)
    (owned : state.owner trigger = some number) {mode : Mode} {work : Work} {signal : Signal}
    {move : Move} {before : Ledger}
    (reply : Reply state (.thread trigger) signal (.fired number trigger args mode work) later move)
    (civil : ∀ failure, signal = .error failure → failure.leaves = false)
    (opened : before.IsOpen number ((state.entry number).stopCallback? trigger)) :
    Stage number trigger args
      { later.standing number trigger with
        stack := move.frames ++ [.dispatched trigger (.fire number trigger)]
        signal := move.signal }
      ((Ledger.of trigger (state.frameDeeds (.thread trigger) signal
        (.fired number trigger args mode work))).append before) := by
  rw [ledger_fired civil]
  have ending : Ending state number trigger args mode signal later move := by
    simpa only [← reply.endsRun civil] using endRun_ending state number trigger args mode work signal
  exact ending.stage sound.linked single owned opened

/-- A failure of the trigger itself ends the chain and takes the stop. -/
theorem Reply.fails_stage (sound : Sound state) (owned : state.owner trigger = some number)
    {target : Work} {failure : Failure} {move : Move} {before : Ledger}
    (reply : Reply state (.thread trigger) (.error failure) (.dispatched trigger target) later move)
    (mild : failure.leaves = false)
    (opened : before.IsOpen number ((state.entry number).stopCallback? trigger) ∨
      (state.entry number).stopCallback? trigger = none ∧ before.stops = [] ∧
        before.settlements = []) :
    Stage number trigger (state.trigger trigger).args
      { later.standing number trigger with stack := move.frames ++ [], signal := move.signal }
      before := by
  rcases reply.of_dispatched with ⟨value, done, -⟩ | ⟨other, failed, ⟨leaves, -⟩ | ⟨-, complained⟩⟩
  · cases done
  · rw [← Except.error.inj failed, mild] at leaves
    cases leaves
  obtain rfl := Except.error.inj failed
  obtain ⟨taken, released, report, text, answer⟩ :=
    complain_takes sound.linked owned target "running" failure
  rw [← complained] at taken released answer
  obtain rfl : move = _ := answer
  have stacked : ∀ pending, (Move.go ([.report report] ++ callbackFrames number pending
        (state.trigger trigger).args ++ [.sunk text])).frames ++ [] =
      [.report report] ++ callbackFrames number pending (state.trigger trigger).args ++
        [.sunk text] := fun _ => List.append_nil _
  have reported : ∀ frame ∈ [Frame.report report], frame.IsReport :=
    fun frame member => ⟨report, List.mem_singleton.mp member⟩
  have spent : ∀ frame ∈ [Frame.sunk text], frame.isSpent = true := by
    intro frame member
    rw [List.mem_singleton.mp member]; rfl
  rcases opened with opened | ⟨pending, unstopped, unsettled⟩
  · exact .taken _ _ _ _ (stacked _) ⟨.null, rfl⟩ reported spent taken released opened.stops
      opened.settlements fun _ => (opened.nextArgs _).symm
  · refine .taken _ _ _ _ (stacked _) ⟨.null, rfl⟩ reported spent taken released ?_ unsettled ?_
    · rw [pending]; exact unstopped
    · exact fun found => absurd pending found

/-- The callback of the stop is called, with the arguments of the next run. -/
theorem Reply.settles_stage {callback : Work} {given : List Value} {value : Value}
    {move : Move} {before : Ledger} {below : List Frame}
    (reply : Reply state (.thread trigger) (.ok value) (.callback number callback given) later move)
    (called : callback.isCallback = true) (next : given = before.nextArgs args)
    (spent : ∀ frame ∈ below, frame.isSpent = true)
    (pending : (state.entry number).stopCallback? trigger = none)
    (released : (state.entry number).trigger ≠ some trigger)
    (stops : before.stops = [(number, callback)]) (unsettled : before.settlements = []) :
    Stage number trigger args
      { later.standing number trigger with
        stack := move.frames ++ below, signal := move.signal }
      ((Ledger.of trigger (state.frameDeeds (.thread trigger) (.ok value)
        (.callback number callback given))).append before) := by
  have deeds : Ledger.of trigger (state.frameDeeds (.thread trigger) (.ok value)
      (.callback number callback given)) = ⟨[], [], [(number, callback, given)]⟩ := by
    simp [frameDeeds, Ledger.of, Deed.stopOf, Deed.runOf, Deed.settlementBy]
  rw [deeds]
  obtain ⟨unmoved, rfl⟩ := reply.of_callback
  refine .finished (fun frame member => ?spent) ?pending ?held (.inr ⟨callback, stops, ?settled⟩)
  case spent =>
    rcases List.mem_cons.mp member with rfl | member
    · exact Frame.isSpent_of_isCommon called
    · rcases List.mem_cons.mp member with rfl | member
      · rfl
      · exact spent frame member
  case pending =>
    show (later.entry number).stopCallback? trigger = none
    rw [unmoved.entry]; exact pending
  case held =>
    show (later.entry number).trigger ≠ some trigger
    rw [unmoved.entry]; exact released
  case settled =>
    show [(number, callback, given)] ++ before.settlements = _
    rw [unsettled, next]; rfl

/-- A thread that has nothing to settle is left with nothing to settle. -/
theorem Reply.over (sound : Sound state) (owned : state.owner trigger = some number)
    {frame : Frame} {signal : Signal} {move : Move}
    (reply : Reply state (.thread trigger) signal frame later move)
    (fits : Fits state (.thread trigger) frame) (uncommon : frame.isCommon = false)
    (top : frame.isSpent = true)
    (pending : (state.entry number).stopCallback? trigger = none)
    (released : (state.entry number).trigger ≠ some trigger) :
    move.IsPlain ∧ (later.entry number).stopCallback? trigger = none ∧
      (later.entry number).trigger ≠ some trigger := by
  cases reply with
  | plain common => rw [common] at uncommon; cases uncommon
  | request asked => rw [Frame.isCommon_of_isRequest asked] at uncommon; cases uncommon
  | passed => exact ⟨.fail _, pending, released⟩
  | dispatched => exact ⟨.give _, pending, released⟩
  | calledBack => exact ⟨.give _, pending, released⟩
  | complains other target mild =>
    obtain rfl := Agent.thread.inj fits.1
    obtain ⟨taken, letGo, report, text, move⟩ :=
      complain_takes sound.linked owned target "running" _
    rw [move, pending]
    refine ⟨fun added member => ?_, taken, letGo⟩
    rcases List.mem_cons.mp member with rfl | member
    · rfl
    · rw [List.mem_singleton.mp member]; rfl
  | regrets task work given report mild =>
    have neutral := Neutral.countError state task report
    refine ⟨fun added member => ?_, ?_, ?_⟩
    · rw [List.mem_singleton.mp member]; rfl
    · rw [Entry.stopCallback?, neutral.stops]; exact pending
    · rw [neutral.held]; exact released
  | waits _ _ counts | proceeds counts | obeys counts | cancelled counts | breaks _ counts =>
    cases counts <;> cases top
  | _ => cases top

theorem Reply.over_stage (sound : Sound state) (owned : state.owner trigger = some number)
    {frame : Frame} {signal : Signal} {move : Move} {before : Ledger} {below : List Frame}
    (reply : Reply state (.thread trigger) signal frame later move)
    (fits : Fits state (.thread trigger) frame) (uncommon : frame.isCommon = false)
    (top : frame.isSpent = true) (spent : ∀ frame ∈ below, frame.isSpent = true)
    (pending : (state.entry number).stopCallback? trigger = none)
    (released : (state.entry number).trigger ≠ some trigger)
    (closed : before.IsClosed number args) :
    Stage number trigger args
      { later.standing number trigger with
        stack := move.frames ++ below, signal := move.signal } before := by
  obtain ⟨plain, taken, letGo⟩ := reply.over sound owned fits uncommon top pending released
  refine .finished (fun added member => ?_) taken letGo closed
  rcases List.mem_append.mp member with member | member
  · exact Frame.isSpent_of_isCommon (Frame.isCommon_of_isPlain (plain added member))
  · exact spent added member

theorem frameDeeds_eq_nil {signal : Signal} {frame : Frame} (uncommon : frame.isCommon = false)
    (quiet : ∀ number trigger args mode work, frame ≠ .fired number trigger args mode work)
    (still : ∀ number work args, frame ≠ .callback number work args) :
    state.frameDeeds agent signal frame = [] := by
  cases frame with
  | fired number trigger args mode work => exact absurd rfl (quiet _ _ _ _ _)
  | callback number work args => exact absurd rfl (still _ _ _)
  | call work args => cases work <;> first | (cases signal <;> rfl) | cases uncommon
  | _ => first | (cases signal <;> rfl) | cases uncommon

theorem Replied.stage (sound : Sound state) (single : Single state) {frame : Frame}
    {rest : List Frame} {signal : Signal}
    (active : state.active = some ⟨.thread trigger, frame :: rest, signal⟩)
    (owned : state.owner trigger = some number)
    (civil : ∀ failure, signal = .error failure → failure.leaves = false) {before : Ledger}
    (stage : Stage number trigger (state.trigger trigger).args (state.standing number trigger)
      before) :
    Stage number trigger (state.trigger trigger).args
      { (state.answer (.thread trigger) signal frame).1.standing number trigger with
        stack := (state.answer (.thread trigger) signal frame).2.frames ++ rest
        signal := (state.answer (.thread trigger) signal frame).2.signal }
      ((Ledger.of trigger (state.frameDeeds (.thread trigger) signal frame)).append before) := by
  have replied := sound.replied active
  have reply := replied.reply
  have fits := replied.fits sound
  have stacked : (state.standing number trigger).stack = frame :: rest := stackOf_active active
  have signalled : (state.standing number trigger).signal = signal := signalOf_active active
  by_cases common : frame.isCommon = true
  · -- what the program does here it could do anywhere; then the stack changes
    have beside := (Replied.apart sound active owned (.inr common)).beside single
    have besides : Beside number trigger (state.frameDeeds (.thread trigger) signal frame)
        (state.standing number trigger)
        { (state.answer (.thread trigger) signal frame).1.standing number trigger with
          stack := frame :: rest, signal := signal } := by
      cases beside with
      | spared first second third fourth => exact .spared first second third fourth
      | stopped callback first second third fourth fifth =>
        exact .stopped callback first second third fourth fifth
    have lasts := stage.beside besides stacked.symm signalled.symm
      fun _ _ => ⟨frame, rest, stacked, common⟩
    exact lasts.goesOn rfl common (answer_answers sound.linked.tidy common signal) civil
  have uncommon : frame.isCommon = false := by simpa using common
  generalize (state.answer (.thread trigger) signal frame).1 = later at reply ⊢
  generalize (state.answer (.thread trigger) signal frame).2 = move at reply ⊢
  cases stage with
  | waits first value counts same ok undecided opened =>
    obtain ⟨rfl, rfl⟩ := List.cons.inj (stacked.symm.trans same)
    obtain rfl := signalled.symm.trans ok
    rw [frameDeeds_eq_nil uncommon (by rintro _ _ _ _ _ rfl; cases counts)
      (by rintro _ _ _ rfl; cases counts)]
    exact reply.waits_stage sound owned counts undecided opened
  | calls target value either same ok opened =>
    obtain ⟨rfl, rfl⟩ := List.cons.inj (stacked.symm.trans same)
    obtain rfl := signalled.symm.trans ok
    rw [frameDeeds_eq_nil uncommon (by rintro _ _ _ _ _ ⟨⟩) (by rintro _ _ _ ⟨⟩)]
    exact reply.calls_stage sound owned either opened
  | runs above mode work allCommon same opened =>
    obtain rfl := above_eq_nil allCommon (stacked.symm.trans same) uncommon
    obtain ⟨rfl, rfl⟩ := List.cons.inj (stacked.symm.trans same)
    exact reply.runs_stage sound single owned civil opened
  | fails failure same failed opened =>
    obtain ⟨rfl, rfl⟩ := List.cons.inj (stacked.symm.trans same)
    obtain rfl := signalled.symm.trans failed
    rw [frameDeeds_eq_nil uncommon (by rintro _ _ _ _ _ ⟨⟩) (by rintro _ _ _ ⟨⟩)]
    exact reply.fails_stage sound owned (civil failure rfl) opened
  | settles above below callback same shields spent pending held stops unsettled =>
    obtain rfl := above_eq_nil shields.isCommon (stacked.symm.trans same) uncommon
    obtain ⟨rfl, rfl⟩ := List.cons.inj (stacked.symm.trans same)
    obtain ⟨value, ok⟩ := shields.resumes
    obtain rfl := signalled.symm.trans ok
    exact reply.settles_stage fits.1 rfl spent pending held stops unsettled
  | finished spent pending held closed =>
    have top : frame.isSpent = true := spent frame (stacked ▸ List.mem_cons_self)
    rw [frameDeeds_eq_nil uncommon (by rintro _ _ _ _ _ rfl; cases top)
      (by rintro _ _ _ rfl; cases top)]
    exact reply.over_stage sound owned fits uncommon top
      (fun other member => spent other (stacked ▸ List.mem_cons_of_mem _ member)) pending held
      closed

end State

end Timetable
