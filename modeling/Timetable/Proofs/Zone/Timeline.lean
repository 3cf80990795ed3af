import Timetable.Zone

/-! Offsets along a list of transitions.

At a transition clocks jump from one reading to another, and the readings from the earlier to the
later of the two are skipped or shown twice. As long as no reading lies between two jumps at once,
the offset of a reading and the offset at an instant agree: a reading taken by its own offset is the
first instant that shows it, if any does, and later readings are shown at later instants.
-/

set_option autoImplicit false

namespace Timetable

def offsetByInstant (before : Int) (transitions : List Transition) (instant : Int) : Int :=
  offsetAfter (fun _ transition => decide (transition.second * secondMicros ≤ instant)) before
    transitions

def offsetByReading (before : Int) (transitions : List Transition) (reading : Int) : Int :=
  offsetAfter
    (fun before transition =>
      decide ((transition.second + max before transition.offset) * secondMicros ≤ reading))
    before transitions

/-- The transitions change the offset `before` to `after`, their jumps follow one another, and all
of them lie between the readings `floor` and `ceiling`, which count seconds. -/
inductive Spaced : (floor before : Int) → List Transition → (ceiling after : Int) → Prop where
  | nil {floor before ceiling : Int} : floor ≤ ceiling → Spaced floor before [] ceiling before
  | cons {floor before ceiling after : Int} {transition : Transition} {rest : List Transition} :
      floor ≤ transition.second + min before transition.offset →
      Spaced (transition.second + max before transition.offset) transition.offset rest ceiling
        after →
      Spaced floor before (transition :: rest) ceiling after

instance decideSpaced (ceiling after : Int) :
    (floor before : Int) → (transitions : List Transition) →
      Decidable (Spaced floor before transitions ceiling after)
  | floor, before, [] =>
    decidable_of_iff (floor ≤ ceiling ∧ before = after)
      ⟨fun ⟨ordered, same⟩ => same ▸ .nil ordered, fun | .nil ordered => ⟨ordered, rfl⟩⟩
  | _, before, transition :: rest =>
    have := decideSpaced ceiling after (transition.second + max before transition.offset)
      transition.offset rest
    decidable_of_iff (_ ∧ _)
      ⟨fun ⟨next, rest⟩ => .cons next rest, fun | .cons next rest => ⟨next, rest⟩⟩

variable {before after floor ceiling : Int} {transition : Transition}
  {transitions : List Transition}

theorem offsetByInstant_of_reached {instant : Int}
    (reached : transition.second * 1000000 ≤ instant) :
    offsetByInstant before (transition :: transitions) instant =
      offsetByInstant transition.offset transitions instant :=
  if_pos (decide_eq_true reached)

theorem offsetByInstant_of_ahead {instant : Int}
    (ahead : instant < transition.second * 1000000) :
    offsetByInstant before (transition :: transitions) instant = before :=
  if_neg (fun reached => absurd (of_decide_eq_true reached) (Int.not_le.mpr ahead))

theorem offsetByReading_of_reached {reading : Int}
    (reached : (transition.second + max before transition.offset) * 1000000 ≤ reading) :
    offsetByReading before (transition :: transitions) reading =
      offsetByReading transition.offset transitions reading :=
  if_pos (decide_eq_true reached)

theorem offsetByReading_of_ahead {reading : Int}
    (ahead : reading < (transition.second + max before transition.offset) * 1000000) :
    offsetByReading before (transition :: transitions) reading = before :=
  if_neg (fun reached => absurd (of_decide_eq_true reached) (Int.not_le.mpr ahead))

namespace Spaced

theorem append {middle between : Int} {later : List Transition}
    (first : Spaced floor before transitions middle between)
    (second : Spaced middle between later ceiling after) :
    Spaced floor before (transitions ++ later) ceiling after := by
  induction first with
  | nil below =>
    cases second with
    | nil further => exact .nil (Int.le_trans below further)
    | cons next rest => exact .cons (Int.le_trans below next) rest
  | cons next rest ih => exact .cons next (ih second)

theorem lower {further : Int} (spaced : Spaced floor before transitions ceiling after)
    (below : further ≤ floor) : Spaced further before transitions ceiling after := by
  cases spaced with
  | nil ordered => exact .nil (Int.le_trans below ordered)
  | cons next rest => exact .cons (Int.le_trans below next) rest

theorem offsetByInstant_of_early {instant : Int}
    (spaced : Spaced floor before transitions ceiling after)
    (early : instant < (floor - before) * 1000000) :
    offsetByInstant before transitions instant = before := by
  cases spaced with
  | nil => rfl
  | cons next rest => exact offsetByInstant_of_ahead (by omega)

theorem floor_le_shown {instant : Int} (spaced : Spaced floor before transitions ceiling after)
    (late : (floor - before) * 1000000 ≤ instant) :
    floor * 1000000 ≤ instant + offsetByInstant before transitions instant * 1000000 := by
  induction spaced with
  | nil => exact show _ ≤ _ + _ * (1000000 : Int) by simp only [offsetByInstant, offsetAfter]; omega
  | @cons floor before ceiling after transition rest next spaced ih =>
    by_cases reached : transition.second * 1000000 ≤ instant
    · rw [offsetByInstant_of_reached reached]
      by_cases early : instant < (transition.second + max before transition.offset -
          transition.offset) * 1000000
      · rw [spaced.offsetByInstant_of_early early]
        omega
      · have above := ih (by omega)
        omega
    · rw [offsetByInstant_of_ahead (by omega)]
      omega

theorem floor_le_taken {reading : Int} (spaced : Spaced floor before transitions ceiling after)
    (late : floor * 1000000 ≤ reading) :
    (floor - before) * 1000000 ≤
      reading - offsetByReading before transitions reading * 1000000 := by
  induction spaced with
  | nil => exact show _ ≤ _ - _ * (1000000 : Int) by simp only [offsetByReading, offsetAfter]; omega
  | @cons floor before ceiling after transition rest next spaced ih =>
    by_cases reached :
        (transition.second + max before transition.offset) * 1000000 ≤ reading
    · rw [offsetByReading_of_reached reached]
      have above := ih reached
      omega
    · rw [offsetByReading_of_ahead (by omega)]
      omega

/-- A reading that clocks show is taken as an instant that shows it, and no earlier one does. -/
theorem taken_of_shown {instant reading : Int}
    (spaced : Spaced floor before transitions ceiling after)
    (shown : instant + offsetByInstant before transitions instant * 1000000 = reading) :
    reading - offsetByReading before transitions reading * 1000000 ≤ instant ∧
      offsetByInstant before transitions
          (reading - offsetByReading before transitions reading * 1000000) =
        offsetByReading before transitions reading := by
  induction spaced with
  | nil =>
    simp only [offsetByInstant, offsetByReading, offsetAfter, and_true] at shown ⊢
    omega
  | @cons floor before ceiling after transition rest next spaced ih =>
    by_cases passed : transition.second * 1000000 ≤ instant
    · rw [offsetByInstant_of_reached passed] at shown
      by_cases reached :
          (transition.second + max before transition.offset) * 1000000 ≤ reading
      · -- Both passed the transition, so that the rest of the list decides.
        have above := spaced.floor_le_taken reached
        have taken := ih shown
        rw [offsetByReading_of_reached reached, offsetByInstant_of_reached (by omega)]
        exact taken
      · -- The second showing of a reading that the jump goes back over.
        have early : instant < (transition.second + max before transition.offset -
            transition.offset) * 1000000 := by
          apply Int.not_le.mp
          intro late
          have above := spaced.floor_le_shown late
          omega
        rw [spaced.offsetByInstant_of_early early] at shown
        rw [offsetByReading_of_ahead (by omega), offsetByInstant_of_ahead (by omega)]
        omega
    · rw [offsetByInstant_of_ahead (by omega)] at shown
      rw [offsetByReading_of_ahead (by omega), offsetByInstant_of_ahead (by omega)]
      omega

/-- Of two readings that clocks show, the later one is taken as a later instant. -/
theorem taken_lt_taken {earlier later : Int}
    (spaced : Spaced floor before transitions ceiling after) (ordered : earlier < later)
    (shown : offsetByInstant before transitions
        (earlier - offsetByReading before transitions earlier * 1000000) =
      offsetByReading before transitions earlier) :
    earlier - offsetByReading before transitions earlier * 1000000 <
      later - offsetByReading before transitions later * 1000000 := by
  induction spaced with
  | nil =>
    simp only [offsetByReading, offsetAfter]
    omega
  | @cons floor before ceiling after transition rest next spaced ih =>
    by_cases reached :
        (transition.second + max before transition.offset) * 1000000 ≤ later
    · have above := spaced.floor_le_taken reached
      rw [offsetByReading_of_reached reached]
      by_cases past :
          (transition.second + max before transition.offset) * 1000000 ≤ earlier
      · have behind := spaced.floor_le_taken past
        rw [offsetByReading_of_reached past] at shown ⊢
        rw [offsetByInstant_of_reached (by omega)] at shown
        exact ih shown
      · rw [offsetByReading_of_ahead (Int.not_le.mp past)] at shown ⊢
        -- Were the earlier reading taken after the transition, clocks would not show it there.
        refine Int.lt_of_lt_of_le (Int.not_le.mp fun passed => ?_)
          (show transition.second * 1000000 ≤ _ by omega)
        rw [offsetByInstant_of_reached passed] at shown
        by_cases early : earlier - before * 1000000 <
            (transition.second + max before transition.offset - transition.offset) * 1000000
        · rw [spaced.offsetByInstant_of_early early] at shown
          omega
        · have shownAbove := spaced.floor_le_shown (Int.not_lt.mp early)
          omega
    · have ahead := Int.not_le.mp reached
      rw [offsetByReading_of_ahead ahead, offsetByReading_of_ahead (Int.lt_trans ordered ahead)]
      omega

end Spaced

end Timetable
