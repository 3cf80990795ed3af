import Timetable.Proofs.Zone.Table

/-! Which readings the clocks of a zone show, and when they show them first.

The two conversions between universal time and the readings of a zone are not inverse to each other
at a jump. The reading that the conversion to universal time and back leaves alone is one that clocks
show, and universal time is then that of its first showing.
-/

set_option autoImplicit false

namespace Timetable

namespace Wall

theorem ofMicros_eq_ok {micros : Int} {wall : Wall} :
    ofMicros micros = .ok wall ↔ micros = wall.micros := by
  have bounded := wall.bounded
  constructor
  · intro same
    simp only [ofMicros] at same
    split at same
    case isTrue within =>
      cases same
      exact (Int.toNat_of_nonneg within.1).symm
    case isFalse => cases same
  · rintro rfl
    exact dif_pos ⟨by omega, by omega⟩

theorem map_micros_eq_ok {micros instant : Int} :
    (ofMicros micros).map (fun wall => (wall.micros : Int)) = .ok instant ↔
      ∃ wall : Wall, micros = wall.micros ∧ instant = wall.micros := by
  constructor
  · intro same
    cases converted : ofMicros micros with
    | error fault =>
      rw [converted] at same
      cases same
    | ok wall =>
      rw [converted] at same
      cases same
      exact ⟨wall, ofMicros_eq_ok.mp converted, rfl⟩
  · rintro ⟨wall, same, rfl⟩
    rw [ofMicros_eq_ok.mpr same]
    rfl

end Wall

namespace DateTime

theorem ofInstant_eq_ok {zone : Zone} {instant : Instant} {time : DateTime} :
    ofInstant zone instant = .ok time ↔ ∃ wall,
      Wall.ofMicros (instant + zone.offsetAt instant * secondMicros) = .ok wall ∧
        time = ⟨wall, some zone, decide (zone.offsetOf false wall ≠ zone.offsetAt instant)⟩ := by
  simp only [ofInstant]
  cases Wall.ofMicros (instant + zone.offsetAt instant * secondMicros) with
  | error fault => simp [Except.map]
  | ok wall => simp [Except.map, eq_comm]

theorem zone_of_ofInstant {zone : Zone} {instant : Instant} {time : DateTime}
    (shown : ofInstant zone instant = .ok time) : time.zone = some zone := by
  obtain ⟨wall, -, rfl⟩ := ofInstant_eq_ok.mp shown
  rfl

end DateTime

namespace Zone

def Shows (zone : Zone) (universal wall : Wall) : Prop :=
  ∃ fold, DateTime.ofInstant zone universal.micros = .ok ⟨wall, some zone, fold⟩

/-- The first time at which clocks in the zone show a reading. -/
structure FirstShows (zone : Zone) (universal wall : Wall) : Prop where
  shown : zone.Shows universal wall
  first : ∀ other, zone.Shows other wall → universal.micros ≤ other.micros

/-- A zone with one offset, or one of the table. -/
def IsKnown (zone : Zone) : Prop :=
  ∀ own, zone = .named own → own ∈ allNamed

variable {zone : Zone} {universal other wall later : Wall}

theorem shows_iff :
    zone.Shows universal wall ↔
      universal.micros + zone.offsetAt universal.micros * 1000000 = wall.micros := by
  simp only [Shows, DateTime.ofInstant]
  constructor
  · rintro ⟨fold, same⟩
    cases converted : Wall.ofMicros (universal.micros +
        zone.offsetAt universal.micros * secondMicros) with
    | error fault =>
      rw [converted] at same
      cases same
    | ok shown =>
      rw [converted] at same
      cases same
      exact Wall.ofMicros_eq_ok.mp converted
  · intro same
    have converted : Wall.ofMicros (universal.micros +
        zone.offsetAt universal.micros * secondMicros) = .ok wall :=
      Wall.ofMicros_eq_ok.mpr same
    rw [converted]
    exact ⟨_, rfl⟩

theorem FirstShows.unique (one : zone.FirstShows universal wall)
    (another : zone.FirstShows other wall) : universal.micros = other.micros :=
  Nat.le_antisymm (one.first other another.shown) (another.first universal one.shown)

theorem instant_eq_ok {instant : Int} :
    DateTime.instant ⟨wall, some zone, false⟩ = .ok instant ↔
      ∃ universal : Wall, instant = universal.micros ∧
        wall.micros - zone.offsetOf false wall * 1000000 = universal.micros := by
  show (Wall.ofMicros (wall.micros - zone.offsetOf false wall * 1000000)).map _ = _ ↔ _
  rw [Wall.map_micros_eq_ok]
  exact exists_congr fun _ => And.comm

theorem shows_of_fixed {offset : Int}
    (taken : DateTime.instant ⟨wall, some (.fixed offset), false⟩ = .ok (universal.micros : Int)) :
    (fixed offset).Shows universal wall := by
  obtain ⟨converted, same, moved⟩ := instant_eq_ok.mp taken
  rw [← same] at moved
  apply shows_iff.mpr
  simp only [offsetOf, offsetAt] at moved ⊢
  omega

structure Follows (zone : Zone) (before : Int) (transitions : List Transition) : Prop where
  spaced : ∃ floor ceiling after, Spaced floor before transitions ceiling after
  byInstant : ∀ universal : Wall,
    zone.offsetAt universal.micros = offsetByInstant before transitions universal.micros
  byReading : ∀ wall, zone.offsetOf false wall = offsetByReading before transitions wall.micros

theorem IsKnown.follows (known : zone.IsKnown) :
    ∃ before transitions, zone.Follows before transitions := by
  cases zone with
  | fixed offset =>
    exact ⟨offset, [], ⟨0, 0, offset, .nil (Int.le_refl 0)⟩, fun _ => rfl, fun _ => rfl⟩
  | named own =>
    have tame := isTame_of_mem_allNamed own (known own rfl)
    obtain ⟨ceiling, after, spaced⟩ := tame.spaced_timeline
    exact ⟨own.initial, own.timeline, ⟨0, ceiling, after, spaced⟩, tame.offsetAt_eq,
      tame.offsetOf_eq⟩

/-- A reading that clocks show at some time is taken for the first such time. -/
theorem IsKnown.firstShows_of_shows (known : zone.IsKnown)
    (taken : DateTime.instant ⟨wall, some zone, false⟩ = .ok (universal.micros : Int))
    (shown : zone.Shows other wall) : zone.FirstShows universal wall := by
  obtain ⟨before, transitions, ⟨floor, ceiling, after, spaced⟩, byInstant, byReading⟩ :=
    known.follows
  obtain ⟨converted, same, moved⟩ := instant_eq_ok.mp taken
  rw [← same, byReading] at moved
  have showing : ∀ another : Wall, zone.Shows another wall →
      universal.micros ≤ another.micros ∧
        zone.offsetAt universal.micros = zone.offsetOf false wall := by
    intro another shown
    rw [shows_iff, byInstant] at shown
    have first := spaced.taken_of_shown shown
    rw [moved, ← byInstant, ← byReading] at first
    exact ⟨Int.ofNat_le.mp first.1, first.2⟩
  refine ⟨?_, fun another shown => (showing another shown).1⟩
  rw [shows_iff, (showing other shown).2, byReading]
  omega

/-- Of two readings that clocks show, the later one is first shown at a later time. -/
theorem IsKnown.micros_lt (known : zone.IsKnown)
    (taken : DateTime.instant ⟨wall, some zone, false⟩ = .ok (universal.micros : Int))
    (shown : zone.Shows universal wall)
    (takenLater : DateTime.instant ⟨later, some zone, false⟩ = .ok (other.micros : Int))
    (ordered : wall.micros < later.micros) : universal.micros < other.micros := by
  obtain ⟨before, transitions, ⟨floor, ceiling, after, spaced⟩, byInstant, byReading⟩ :=
    known.follows
  obtain ⟨converted, same, moved⟩ := instant_eq_ok.mp taken
  obtain ⟨convertedLater, sameLater, movedLater⟩ := instant_eq_ok.mp takenLater
  rw [← same, byReading] at moved
  rw [← sameLater, byReading] at movedLater
  rw [shows_iff, byInstant] at shown
  have agree : offsetByInstant before transitions universal.micros =
      offsetByReading before transitions wall.micros := by
    omega
  have less := spaced.taken_lt_taken (Int.ofNat_lt.mpr ordered) (by rw [moved]; exact agree)
  rw [moved, movedLater] at less
  exact Int.ofNat_lt.mp less

/-- A reading that is taken for a time of the calendar is told to be skipped unless clocks show it
then. -/
theorem IsKnown.isSkipped_eq (known : zone.IsKnown)
    (taken : DateTime.instant ⟨wall, some zone, false⟩ = .ok (universal.micros : Int)) :
    ∃ skipped, wall.isSkipped (some zone) = .ok skipped ∧
      (skipped = false ↔ zone.Shows universal wall) := by
  obtain ⟨shown, showing⟩ : ∃ shown, zone.Shows universal shown := by
    cases zone with
    | fixed offset => exact ⟨wall, shows_of_fixed taken⟩
    | named own =>
      obtain ⟨converted, same, moved⟩ := instant_eq_ok.mp taken
      rw [← same] at moved
      have tame := isTame_of_mem_allNamed own (known own rfl)
      rw [show offsetOf (.named own) false wall = _ from tame.offsetOf_eq wall] at moved
      have within := tame.shown_within moved
      rw [← tame.offsetAt_eq] at within
      refine ⟨⟨_, (Int.toNat_lt within.1).mpr within.2⟩, shows_iff.mpr ?_⟩
      exact (Int.toNat_of_nonneg within.1).symm
  obtain ⟨fold, converted⟩ := showing
  refine ⟨decide (shown ≠ wall), ?_, ?_⟩
  · simp only [Wall.isSkipped, taken, Option.getD_some]
    simp only [bind, Except.bind, converted, pure, Except.pure]
  · rw [decide_eq_false_iff_not, Decidable.not_not]
    constructor
    · rintro rfl
      exact ⟨fold, converted⟩
    · rintro ⟨other, same⟩
      rw [converted] at same
      cases same
      rfl

theorem instant_of_inner {own : NamedZone} (member : own ∈ allNamed)
    (inner : dayMicros ≤ wall.micros ∧ wall.micros + dayMicros < calendarMicros) :
    ∃ instant, DateTime.instant ⟨wall, some (.named own), false⟩ = .ok instant := by
  have tame := isTame_of_mem_allNamed own member
  have moderate : IsOffset (offsetOf (.named own) false wall) := by
    rw [show offsetOf (.named own) false wall = _ from tame.offsetOf_eq wall]
    exact isOffset_offsetAfter tame.initial tame.isOffset_timeline
  simp only [dayMicros, secondMicros] at inner
  have within : 0 ≤ wall.micros - offsetOf (.named own) false wall * 1000000 ∧
      wall.micros - offsetOf (.named own) false wall * 1000000 < (calendarMicros : Int) := by
    omega
  exact ⟨_, instant_eq_ok.mpr ⟨⟨_, (Int.toNat_lt within.1).mpr within.2⟩, rfl,
    (Int.toNat_of_nonneg within.1).symm⟩⟩

end Zone

end Timetable
