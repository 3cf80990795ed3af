import Mathlib.Logic.Basic
import Timetable.Proofs.Zone.Shown

/-! Readings that clocks never show.

Where clocks are put forward they jump over readings, and these are the readings that are told to be
skipped: each is taken by the offset before the jump, so that it comes back as a reading after it. A
reading at the end of the last year that universal time has no room for is not told anything.
-/

set_option autoImplicit false

namespace Timetable

/-- `JumpedOver reading before transitions`: at one of the transitions, the first of which changes the
offset `before`, clocks are put forward over a reading. -/
inductive JumpedOver (reading : Int) : Int → List Transition → Prop where
  | here {before : Int} {transition : Transition} {rest : List Transition} :
      (transition.second + before) * 1000000 ≤ reading →
      reading < (transition.second + transition.offset) * 1000000 →
      JumpedOver reading before (transition :: rest)
  | later {before : Int} {transition : Transition} {rest : List Transition} :
      JumpedOver reading transition.offset rest → JumpedOver reading before (transition :: rest)

namespace Spaced

variable {before after floor ceiling reading : Int} {transitions : List Transition}

theorem floor_le_of_jumpedOver (spaced : Spaced floor before transitions ceiling after)
    (jumped : JumpedOver reading before transitions) : floor * 1000000 ≤ reading := by
  induction jumped generalizing floor with
  | here late early =>
    cases spaced with
    | cons next rest => omega
  | later jumped ih =>
    cases spaced with
    | cons next rest =>
      have above := ih rest
      omega

/-- A reading comes back changed from the instant that it is taken for if clocks jump over it. -/
theorem jumpedOver_iff (spaced : Spaced floor before transitions ceiling after) :
    JumpedOver reading before transitions ↔
      offsetByInstant before transitions
          (reading - offsetByReading before transitions reading * 1000000) ≠
        offsetByReading before transitions reading := by
  induction spaced with
  | nil => exact ⟨by rintro ⟨⟩, fun changed => absurd rfl changed⟩
  | @cons floor before ceiling after transition rest next spaced ih =>
    by_cases reached : (transition.second + max before transition.offset) * 1000000 ≤ reading
    · have above := spaced.floor_le_taken reached
      rw [offsetByReading_of_reached reached, offsetByInstant_of_reached (by omega), ← ih]
      constructor
      · rintro (⟨late, early⟩ | jumped)
        · omega
        · exact jumped
      · exact .later
    · rw [offsetByReading_of_ahead (Int.not_le.mp reached)]
      by_cases passed : transition.second * 1000000 ≤ reading - before * 1000000
      · -- The clocks are put forward, and the reading lies between the two ends of the jump.
        rw [offsetByInstant_of_reached passed]
        refine ⟨fun _ same => ?_, fun _ => .here (by omega) (by omega)⟩
        have shown := @floor_le_shown _ _ _ _ _ (reading - before * 1000000) spaced (by omega)
        rw [same] at shown
        omega
      · rw [offsetByInstant_of_ahead (Int.not_le.mp passed)]
        refine ⟨fun jumped => ?_, fun changed => absurd rfl changed⟩
        cases jumped with
        | here late early => omega
        | later jumped =>
          have above := spaced.floor_le_of_jumpedOver jumped
          omega

end Spaced

theorem JumpedOver.exists_transition {reading before : Int} {transitions : List Transition}
    (jumped : JumpedOver reading before transitions) :
    ∃ transition ∈ transitions, reading < (transition.second + transition.offset) * 1000000 := by
  induction jumped with
  | here _ early => exact ⟨_, List.mem_cons_self, early⟩
  | later _ ih =>
    obtain ⟨transition, member, early⟩ := ih
    exact ⟨transition, List.mem_cons_of_mem _ member, early⟩

namespace Zone

variable {own : NamedZone} {wall later universal : Wall}

theorem isKnown_named (member : own ∈ allNamed) : (named own).IsKnown := by
  rintro _ ⟨⟩
  exact member

theorem isSkipped_of_error {zone : Zone} {fault : Fault}
    (taken : DateTime.instant ⟨wall, some zone, false⟩ = .error fault) :
    wall.isSkipped (some zone) = .error fault := by
  simp only [Wall.isSkipped, taken, bind, Except.bind]

theorem isSkipped_of_untaken {zone : Zone}
    (untaken : ∀ instant, DateTime.instant ⟨wall, some zone, false⟩ ≠ .ok instant) :
    wall.isSkipped (some zone) = .error .outsideCalendar := by
  refine isSkipped_of_error ?_
  simp only [DateTime.instant, DateTime.offset?, Option.map_some] at untaken ⊢
  by_cases within : 0 ≤ wall.micros - zone.offsetOf false wall * secondMicros ∧
      wall.micros - zone.offsetOf false wall * secondMicros < (calendarMicros : Int)
  · rw [Wall.ofMicros, dif_pos within] at untaken
    exact absurd rfl (untaken _)
  · rw [Wall.ofMicros, dif_neg within]
    rfl

theorem exists_instant_of_isSkipped {zone : Zone} {skipped : Bool}
    (told : wall.isSkipped (some zone) = .ok skipped) :
    ∃ universal : Wall,
      DateTime.instant ⟨wall, some zone, false⟩ = .ok (universal.micros : Int) := by
  cases taken : DateTime.instant ⟨wall, some zone, false⟩ with
  | error fault =>
    rw [isSkipped_of_error taken] at told
    cases told
  | ok instant =>
    obtain ⟨universal, rfl, -⟩ := instant_eq_ok.mp taken
    exact ⟨universal, rfl⟩

theorem IsKnown.firstShows_of_isSkipped {zone : Zone} (known : zone.IsKnown)
    (told : wall.isSkipped (some zone) = .ok false) : ∃ universal : Wall,
      DateTime.instant ⟨wall, some zone, false⟩ = .ok (universal.micros : Int) ∧
        zone.FirstShows universal wall := by
  obtain ⟨universal, taken⟩ := exists_instant_of_isSkipped told
  obtain ⟨skipped, same, spared⟩ := known.isSkipped_eq taken
  cases told.symm.trans same
  exact ⟨universal, taken, known.firstShows_of_shows taken (spared.mp rfl)⟩

/-- From the second day of the calendar on, what clocks show is taken for a time of the calendar. -/
theorem exists_instant_of_shows (member : own ∈ allNamed) (late : dayMicros ≤ wall.micros)
    (shown : (named own).Shows universal wall) : ∃ first : Wall,
      DateTime.instant ⟨wall, some (.named own), false⟩ = .ok (first.micros : Int) := by
  have tame := isTame_of_mem_allNamed own member
  obtain ⟨ceiling, after, spaced⟩ := tame.spaced_timeline
  have moved := shows_iff.mp shown
  rw [show offsetAt (.named own) universal.micros = _ from tame.offsetAt_eq universal] at moved
  have sooner := (spaced.taken_of_shown moved).1
  have moderate : IsOffset (offsetByReading own.initial own.timeline wall.micros) :=
    isOffset_offsetAfter tame.initial tame.isOffset_timeline
  have bounded := universal.bounded
  simp only [dayMicros, secondMicros] at late
  have within : 0 ≤ wall.micros - offsetByReading own.initial own.timeline wall.micros * 1000000 ∧
      wall.micros - offsetByReading own.initial own.timeline wall.micros * 1000000 <
        (calendarMicros : Int) := by
    omega
  refine ⟨⟨_, (Int.toNat_lt within.1).mpr within.2⟩, instant_eq_ok.mpr ⟨_, rfl, ?_⟩⟩
  rw [show offsetOf (.named own) false wall = _ from tame.offsetOf_eq wall]
  exact (Int.toNat_of_nonneg within.1).symm

theorem isSkipped_of_shows (member : own ∈ allNamed) (late : dayMicros ≤ wall.micros)
    (shown : (named own).Shows universal wall) :
    wall.isSkipped (some (.named own)) = .ok false := by
  have known := isKnown_named member
  obtain ⟨first, taken⟩ := exists_instant_of_shows member late shown
  obtain ⟨skipped, told, spared⟩ := known.isSkipped_eq taken
  rw [told, spared.mpr (known.firstShows_of_shows taken shown).shown]

/-- A reading is told to be skipped if and only if clocks are put forward over it. -/
theorem isSkipped_iff_jumpedOver (member : own ∈ allNamed) (late : dayMicros ≤ wall.micros) :
    wall.isSkipped (some (.named own)) = .ok true ↔
      JumpedOver wall.micros own.initial own.timeline := by
  have tame := isTame_of_mem_allNamed own member
  obtain ⟨ceiling, after, spaced⟩ := tame.spaced_timeline
  cases taken : DateTime.instant ⟨wall, some (.named own), false⟩ with
  | error fault =>
    rw [isSkipped_of_error taken]
    refine ⟨by rintro ⟨⟩, fun jumped => ?_⟩
    -- Clocks do not jump any more in the last days of the calendar.
    obtain ⟨transition, found, early⟩ := jumped.exists_transition
    have bounds := tame.mem_timeline found
    have last := yearSecond_last
    obtain ⟨instant, known⟩ := instant_of_inner member
      ⟨late, show wall.micros + 86400000000 < calendarMicros by omega⟩
    cases taken.symm.trans known
  | ok instant =>
    obtain ⟨universal, rfl, moved⟩ := instant_eq_ok.mp taken
    obtain ⟨skipped, told, spared⟩ := (isKnown_named member).isSkipped_eq taken
    rw [show offsetOf (.named own) false wall = _ from tame.offsetOf_eq wall] at moved
    rw [shows_iff, show offsetAt (.named own) universal.micros = _ from
      tame.offsetAt_eq universal] at spared
    rw [told, Except.ok.injEq, spaced.jumpedOver_iff, moved, ← Bool.not_eq_false, not_iff_not,
      spared]
    omega

/-- `TellsGaps own wall`: what is told of a reading in a named zone. -/
structure TellsGaps (own : NamedZone) (wall : Wall) : Prop where
  /-- A reading that is taken for a time of the calendar is told to be skipped if clocks never show
  it. -/
  told : (∃ instant, DateTime.instant ⟨wall, some (.named own), false⟩ = .ok instant) →
    ∃ skipped, wall.isSkipped (some (.named own)) = .ok skipped ∧
      (skipped = true ↔ ∀ universal, ¬ (named own).Shows universal wall)
  /-- Every reading is, but for those of the last day. -/
  taken : wall.micros + dayMicros < calendarMicros →
    ∃ instant, DateTime.instant ⟨wall, some (.named own), false⟩ = .ok instant
  /-- The others are refused, since universal time has no room for them. -/
  refused : (∀ instant, DateTime.instant ⟨wall, some (.named own), false⟩ ≠ .ok instant) →
    wall.isSkipped (some (.named own)) = .error .outsideCalendar
  /-- The second showing of a reading is told of as the first one is. -/
  shown : ∀ (universal : Wall) (time : DateTime),
    DateTime.ofInstant (.named own) universal.micros = .ok time → time.wall = wall →
    wall.isSkipped (some (.named own)) = .ok false
  skipped : wall.isSkipped (some (.named own)) = .ok true ↔
    JumpedOver wall.micros own.initial own.timeline
  first : wall.isSkipped (some (.named own)) = .ok false → ∃ universal : Wall,
    DateTime.instant ⟨wall, some (.named own), false⟩ = .ok (universal.micros : Int) ∧
      (named own).FirstShows universal wall
  increasing : ∀ later : Wall, wall.isSkipped (some (.named own)) = .ok false →
    later.isSkipped (some (.named own)) = .ok false → wall.micros < later.micros →
    ∃ instant further, DateTime.instant ⟨wall, some (.named own), false⟩ = .ok instant ∧
      DateTime.instant ⟨later, some (.named own), false⟩ = .ok further ∧ instant < further

theorem tellsGaps (member : own ∈ allNamed) (late : dayMicros ≤ wall.micros) :
    TellsGaps own wall where
  told := by
    rintro ⟨instant, taken⟩
    have known := isKnown_named member
    obtain ⟨universal, rfl, -⟩ := instant_eq_ok.mp taken
    obtain ⟨skipped, told, spared⟩ := known.isSkipped_eq taken
    refine ⟨skipped, told, ?_⟩
    rw [← Bool.not_eq_false, spared]
    constructor
    · intro unseen other shown
      exact unseen (known.firstShows_of_shows taken shown).shown
    · intro never
      exact never universal
  taken early := instant_of_inner member ⟨late, early⟩
  refused := isSkipped_of_untaken
  shown universal time shown same := by
    obtain ⟨other, -, known⟩ := DateTime.ofInstant_eq_ok.mp shown
    refine @isSkipped_of_shows _ _ universal member late ⟨time.fold, ?_⟩
    rw [shown, ← same, known]
  skipped := isSkipped_iff_jumpedOver member late
  first := (isKnown_named member).firstShows_of_isSkipped
  increasing later spared sparedToo ordered := by
    have known := isKnown_named member
    obtain ⟨universal, taken, first⟩ := known.firstShows_of_isSkipped spared
    obtain ⟨other, takenLater, -⟩ := known.firstShows_of_isSkipped sparedToo
    exact ⟨_, _, taken, takenLater,
      Int.ofNat_lt.mpr (known.micros_lt taken first.shown takenLater ordered)⟩

theorem jumpedOver_apia (day : Date.ofCivil? 2011 12 30 = some wall.date) :
    JumpedOver wall.micros apia.initial apia.timeline := by
  have number : wall.date.number = 734501 := by
    have known : Date.ofCivil? 2011 12 30 = some ⟨734501, by decide, by decide⟩ := rfl
    rw [known] at day
    exact (congrArg Date.number (Option.some.inj day)).symm
  have reading : 734500 * 86400000000 ≤ wall.micros ∧ wall.micros < 734501 * 86400000000 := by
    simp only [Wall.date, dayMicros, secondMicros] at number
    omega
  rw [NamedZone.timeline_of_steady rfl]
  refine .later (.later (.later (.here ?_ ?_)))
  · show (63460836000 + -36000) * 1000000 ≤ (wall.micros : Int)
    omega
  · show (wall.micros : Int) < (63460836000 + 50400) * 1000000
    omega

/-- From the second day of the calendar on, readings in the zones of the table are told to be skipped
exactly if clocks never show them, and the others are taken in order for their first showings; only some
readings of the last day, for which universal time has no room, are refused. The whole day that Apia left
out is told to be skipped. -/
theorem gaps_told_exactly (member : own ∈ allNamed) {time : DateTime}
    (late : dayMicros ≤ time.wall.micros) :
    TellsGaps own time.wall ∧ (own = apia → Date.ofCivil? 2011 12 30 = some time.wall.date →
      time.wall.isSkipped (some (.named own)) = .ok true) := by
  refine ⟨tellsGaps member late, ?_⟩
  rintro rfl day
  exact (isSkipped_iff_jumpedOver member late).mpr (jumpedOver_apia day)

/-- Noon of the day that Apia left out. -/
def noonInApia : DateTime :=
  ⟨⟨63460843200000000, by decide⟩, some (.named apia), true⟩

theorem gaps_told_exactly_apia :
    apia ∈ allNamed ∧ dayMicros ≤ noonInApia.wall.micros ∧
      Date.ofCivil? 2011 12 30 = some noonInApia.wall.date ∧
      noonInApia.wall.isSkipped (some (.named apia)) = .ok true ∧
      ∀ universal, ¬ (named apia).Shows universal noonInApia.wall := by
  have member : apia ∈ allNamed := by decide
  have late : dayMicros ≤ noonInApia.wall.micros := by decide
  obtain ⟨tells, wholeDay⟩ := gaps_told_exactly member late
  have skipped := wholeDay rfl rfl
  obtain ⟨told, same, never⟩ := tells.told (tells.taken (by decide))
  cases skipped.symm.trans same
  exact ⟨member, late, rfl, skipped, never.mp rfl⟩

def lastInNewYork : DateTime :=
  ⟨⟨315537895800000000, by decide⟩, some (.named newYork), false⟩

/-- Universal time has no room for the last hours in New York: no instant of the calendar shows them, and
yet they are not told to be skipped. -/
theorem not_gaps_told_exactly :
    ¬ ∀ own ∈ allNamed, ∀ time : DateTime, 2011 ≤ time.wall.date.year →
      ∃ skipped, time.wall.isSkipped (some (.named own)) = .ok skipped ∧
        (skipped = true ↔ ∀ universal, ¬ (named own).Shows universal time.wall) := by
  intro claimed
  obtain ⟨skipped, told, -⟩ := claimed newYork (by decide) lastInNewYork (by decide)
  have error : lastInNewYork.wall.isSkipped (some (.named newYork)) = .error .outsideCalendar := rfl
  cases error.symm.trans told

end Zone

end Timetable
