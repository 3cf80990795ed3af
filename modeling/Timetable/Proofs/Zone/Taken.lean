import Timetable.Proofs.Zone.Shown

/-! Times that clocks show are taken for the instants at which they show them.

Where clocks are put back a reading is shown twice, and the fold tells the second showing from the first
one. What clocks show at an instant comes with the fold by which it is taken for that instant.
-/

set_option autoImplicit false

namespace Timetable

def offsetByRepeat (before : Int) (transitions : List Transition) (reading : Int) : Int :=
  offsetAfter
    (fun before transition =>
      decide ((transition.second + min before transition.offset) * secondMicros ≤ reading))
    before transitions

section Repeat

variable {before after floor ceiling : Int} {transition : Transition}
  {transitions : List Transition} {reading instant : Int}

theorem offsetByRepeat_of_reached
    (reached : (transition.second + min before transition.offset) * 1000000 ≤ reading) :
    offsetByRepeat before (transition :: transitions) reading =
      offsetByRepeat transition.offset transitions reading :=
  if_pos (decide_eq_true reached)

theorem Spaced.offsetByRepeat_of_low (spaced : Spaced floor before transitions ceiling after)
    (low : reading < floor * 1000000) : offsetByRepeat before transitions reading = before := by
  cases spaced with
  | nil => rfl
  | cons next rest =>
    refine if_neg fun reached => ?_
    have reached := of_decide_eq_true reached
    simp only [secondMicros] at reached
    omega

/-- What clocks show at an instant has the offset of its first showing or that of its last one. -/
theorem Spaced.shown_first_or_last (spaced : Spaced floor before transitions ceiling after)
    (shown : instant + offsetByInstant before transitions instant * 1000000 = reading) :
    offsetByReading before transitions reading = offsetByInstant before transitions instant ∨
      offsetByRepeat before transitions reading = offsetByInstant before transitions instant := by
  induction spaced with
  | nil => exact .inl rfl
  | @cons floor before ceiling after transition rest next spaced ih =>
    by_cases passed : transition.second * 1000000 ≤ instant
    · rw [offsetByInstant_of_reached passed] at shown ⊢
      by_cases reached :
          (transition.second + max before transition.offset) * 1000000 ≤ reading
      · rw [offsetByReading_of_reached reached, offsetByRepeat_of_reached (by omega)]
        exact ih shown
      · -- The jump goes back over the reading, and no later one does.
        have early : instant < (transition.second + max before transition.offset -
            transition.offset) * 1000000 := by
          apply Int.not_le.mp
          intro late
          have above := spaced.floor_le_shown late
          omega
        rw [spaced.offsetByInstant_of_early early] at shown ⊢
        rw [offsetByRepeat_of_reached (by omega)]
        exact .inr (spaced.offsetByRepeat_of_low (Int.not_le.mp reached))
    · rw [offsetByInstant_of_ahead (Int.not_le.mp passed)] at shown ⊢
      exact .inl (offsetByReading_of_ahead (by omega))

end Repeat

namespace NamedZone.IsTame

variable {zone : NamedZone}

theorem offsetOf_repeat (tame : zone.IsTame) (wall : Wall) :
    zone.offsetOf (Zone.yearOf wall.micros) true wall.micros =
      offsetByRepeat zone.initial zone.timeline wall.micros := by
  obtain ⟨positive, bounded, opening, closing⟩ := yearOf_spec wall
  show offsetAfter (fun before transition =>
    decide ((transition.second + min before transition.offset) * secondMicros ≤ wall.micros))
    zone.initial (zone.transitions (yearsFor (Zone.yearOf wall.micros))) = _
  refine tame.offsetAfter_timeline positive bounded ⟨?_, ?_⟩
  · intro offset moderate transition other past
    exact decide_eq_true (show (transition.second + min offset transition.offset) * 1000000 ≤
      (wall.micros : Int) by omega)
  · intro offset moderate transition other ahead
    exact decide_eq_false (Int.not_le.mpr (show (wall.micros : Int) <
      (transition.second + min offset transition.offset) * 1000000 by omega))

theorem isOffset_transitions (tame : zone.IsTame) (years : List Nat) :
    ∀ transition ∈ zone.transitions years, IsOffset transition.offset := by
  intro transition member
  rcases List.mem_append.mp member with member | member
  · exact tame.isOffset_listed transition member
  · cases seasonal : zone.seasons with
    | none =>
      rw [seasonal] at member
      cases member
    | some seasons =>
      rw [seasonal] at member
      obtain ⟨year, -, member⟩ := List.mem_flatMap.mp member
      exact (Seasons.mem_transitions (tame.seasons seasons seasonal).1 member).2.2.2

theorem isOffset_offsetAt (tame : zone.IsTame) (year : Nat) (instant : Instant) :
    IsOffset (zone.offsetAt year instant) :=
  isOffset_offsetAfter tame.initial (tame.isOffset_transitions _)

theorem isOffset_offsetOf (tame : zone.IsTame) (year : Nat) (fold : Bool) (reading : Nat) :
    IsOffset (zone.offsetOf year fold reading) :=
  isOffset_offsetAfter tame.initial (tame.isOffset_transitions _)

/-- The last transitions of the calendar lie behind the day that follows it, and none has come there
since. -/
theorem offsetAfter_beyond (tame : zone.IsTame) {reached : Int → Transition → Bool}
    (past : ∀ offset, IsOffset offset → ∀ transition, IsOffset transition.offset →
      transition.second + 4 * 86400 ≤ yearSecond 10000 → reached offset transition = true)
    (ahead : ∀ offset, IsOffset offset → ∀ transition, IsOffset transition.offset →
      yearSecond 10000 + 4 * 86400 ≤ transition.second → reached offset transition = false) :
    offsetAfter reached zone.initial (zone.transitions (yearsFor 10000)) =
      offsetAfter reached zone.initial zone.timeline := by
  have settled : Seasons.Settles reached 9999 :=
    ⟨fun offset moderate transition other sooner => past offset moderate transition other
      (Int.le_trans sooner (yearSecond_mono (by decide))), ahead⟩
  rw [← tame.offsetAfter_timeline (by decide) (Nat.le_refl 9999) settled]
  cases seasonal : zone.seasons with
  | none => simp only [transitions, seasonal]
  | some seasons =>
    obtain ⟨regular, -⟩ := tame.seasons seasons seasonal
    have member : ∀ {year}, year ≤ 9999 → ∀ offset, IsOffset offset →
        ∀ transition ∈ seasons.transitions year, reached offset transition = true := by
      intro year early offset moderate transition member
      obtain ⟨-, -, closing, other⟩ := Seasons.mem_transitions regular member
      exact past offset moderate transition other
        (Int.le_trans closing (yearSecond_mono (Nat.succ_le_succ early)))
    have last : ∀ offset, IsOffset offset →
        offsetAfter reached offset (seasons.transitions 9999) = seasons.last := by
      intro offset moderate
      have ends := Seasons.offsetAfter_append regular (Nat.le_of_lt_succ regular.2.1) moderate
        (member (Nat.le_refl 9999)) []
      rwa [List.append_nil] at ends
    -- The seasons of the day after the calendar are asked for too, but none of theirs has begun by then.
    have none : offsetAfter reached seasons.last (seasons.transitions 10000) = seasons.last := by
      refine offsetAfter_of_ahead fun transition member => ?_
      obtain ⟨-, opening, -, other⟩ := Seasons.mem_transitions regular member
      exact ahead _ (Seasons.isOffset_last regular) transition other opening
    have two : ∀ year, zone.transitions (yearsFor (year + 1)) =
        zone.listed ++ (seasons.transitions year ++ seasons.transitions (year + 1)) := by
      intro year
      simp [transitions, seasonal, yearsFor]
    rw [two 9999, two 9998]
    refine offsetAfter_append_congr tame.initial tame.isOffset_listed fun offset moderate => ?_
    rw [Seasons.offsetAfter_append regular (Nat.le_of_lt_succ regular.2.1) moderate
      (member (Nat.le_refl 9999)), none]
    exact (offsetAfter_append_of_reached moderate
      (fun transition found => (Seasons.mem_transitions regular found).2.2.2)
      (member (by decide)) last).symm

/-- The offset at an instant of the calendar, or of a day around it. -/
theorem offsetAt_near (tame : zone.IsTame) {instant : Int} (late : -86400 * 1000000 ≤ instant)
    (early : instant < calendarMicros + 86400 * 1000000) :
    zone.offsetAt (Zone.yearOf instant.toNat) instant =
      offsetByInstant zone.initial zone.timeline instant := by
  have last := yearSecond_last
  by_cases negative : instant < 0
  · have first : Zone.yearOf 0 = 1 := by decide
    have opening : yearSecond 1 = 0 := by decide
    have closing : yearSecond (1 + 1) = 365 * 86400 := by decide
    rw [Int.toNat_of_nonpos (Int.le_of_lt negative), first]
    refine tame.offsetAfter_timeline (Nat.le_refl 1) (by decide) ⟨?_, ?_⟩
    · intro offset _ transition _ past
      exact decide_eq_true (show transition.second * 1000000 ≤ instant by omega)
    · intro offset _ transition _ ahead
      exact decide_eq_false (Int.not_le.mpr (show instant < transition.second * 1000000 by omega))
  · by_cases beyond : (calendarMicros : Int) ≤ instant
    · have year : Zone.yearOf instant.toNat = 10000 := by
        have day : instant.toNat / 86400000000 + 1 = lastDayNumber + 1 := by
          simp only [calendarMicros, dayMicros, secondMicros, lastDayNumber] at early beyond ⊢
          omega
        rw [Zone.yearOf, show dayMicros = 86400000000 from rfl, day]
        decide
      rw [year]
      refine tame.offsetAfter_beyond ?_ ?_
      · intro offset _ transition _ past
        exact decide_eq_true (show transition.second * 1000000 ≤ instant by omega)
      · intro offset _ transition _ ahead
        exact decide_eq_false
          (Int.not_le.mpr (show instant < transition.second * 1000000 by omega))
    · have same := tame.offsetAt_eq ⟨instant.toNat, by omega⟩
      rwa [Int.toNat_of_nonneg (Int.not_lt.mp negative)] at same

end NamedZone.IsTame

namespace Zone.IsKnown

variable {zone : Zone} {instant : Int} {time : DateTime}

/-- What clocks show at an instant has the offset of the zone at that instant. -/
theorem offsetOf_shown (known : zone.IsKnown) (shown : DateTime.ofInstant zone instant = .ok time) :
    zone.offsetOf time.fold time.wall = zone.offsetAt instant := by
  obtain ⟨wall, converted, rfl⟩ := DateTime.ofInstant_eq_ok.mp shown
  have moved := Wall.ofMicros_eq_ok.mp converted
  cases zone with
  | fixed offset => rfl
  | named own =>
    have tame := isTame_of_mem_allNamed own (known own rfl)
    have moderate : IsOffset (offsetAt (.named own) instant) := tame.isOffset_offsetAt _ _
    have bounded := wall.bounded
    simp only [secondMicros] at moved
    have near : offsetAt (.named own) instant =
        offsetByInstant own.initial own.timeline instant :=
      tame.offsetAt_near (by omega) (by omega)
    obtain ⟨ceiling, after, spaced⟩ := tame.spaced_timeline
    -- The fold tells whether the first showing of the reading is meant or the last one.
    by_cases first : offsetOf (.named own) false wall = offsetAt (.named own) instant
    · rw [decide_eq_false (fun differs => differs first)]
      exact first
    · rw [decide_eq_true first]
      rw [near] at moved first ⊢
      rw [show offsetOf (.named own) false wall = _ from tame.offsetOf_eq wall] at first
      exact (tame.offsetOf_repeat wall).trans ((spaced.shown_first_or_last moved).resolve_left first)

theorem instant_ofInstant (known : zone.IsKnown)
    (shown : DateTime.ofInstant zone instant = .ok time) :
    time.instant = (Wall.ofMicros instant).map fun wall => (wall.micros : Int) := by
  have offset := known.offsetOf_shown shown
  obtain ⟨wall, converted, rfl⟩ := DateTime.ofInstant_eq_ok.mp shown
  have moved := Wall.ofMicros_eq_ok.mp converted
  simp only [DateTime.instant, DateTime.offset?, Option.map_some, offset]
  rw [← moved, Int.add_sub_cancel]

/-- A reading that clocks first show after an instant is later than what they show at the instant. -/
theorem lt_of_shown_later {universal other wall later : Wall} (known : zone.IsKnown)
    (shown : zone.Shows universal wall)
    (taken : DateTime.instant ⟨later, some zone, false⟩ = .ok (other.micros : Int))
    (shownLater : zone.Shows other later) (ordered : universal.micros < other.micros) :
    wall.micros < later.micros := by
  obtain ⟨before, transitions, ⟨floor, ceiling, after, spaced⟩, byInstant, byReading⟩ :=
    known.follows
  obtain ⟨converted, same, moved⟩ := instant_eq_ok.mp taken
  rw [← same, byReading] at moved
  rw [shows_iff, byInstant] at shown shownLater
  have first := (spaced.taken_of_shown shown).1
  apply Nat.lt_of_not_le
  intro notLater
  -- Readings that are not shown before keep the order of their instants.
  rcases Nat.lt_or_eq_of_le notLater with sooner | equal
  · have agree : offsetByInstant before transitions other.micros =
        offsetByReading before transitions later.micros := by
      omega
    have less := spaced.taken_lt_taken (Int.ofNat_lt.mpr sooner) (by rw [moved]; exact agree)
    omega
  · rw [equal] at moved
    omega

end Zone.IsKnown

structure DateTime.IsAt (time : DateTime) (zone : Zone) (universal : Wall) : Prop where
  placed : time.zone = some zone
  taken : time.instant = .ok (universal.micros : Int)
  shown : zone.Shows universal time.wall

theorem DateTime.isAt_ofInstant {zone : Zone} {instant start : Int} {time : DateTime}
    (known : zone.IsKnown) (shown : ofInstant zone instant = .ok time)
    (taken : time.instant = .ok start) :
    ∃ universal : Wall, instant = universal.micros ∧ time.IsAt zone universal := by
  have same := known.instant_ofInstant shown
  rw [taken, eq_comm, Wall.map_micros_eq_ok] at same
  obtain ⟨universal, rfl, rfl⟩ := same
  refine ⟨universal, rfl, zone_of_ofInstant shown, taken, time.fold, ?_⟩
  obtain ⟨wall, -, rfl⟩ := ofInstant_eq_ok.mp shown
  exact shown

end Timetable
