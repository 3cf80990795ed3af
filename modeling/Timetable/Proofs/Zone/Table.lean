import Timetable.Proofs.Zone.Seasons

/-! The whole timeline of each named zone.

An offset is found from the listed transitions and those of the seasons of two years. Whatever
happened in earlier years is past and what comes in later years is still ahead, so that the offset
is the one that the transitions of every year give.
-/

set_option autoImplicit false

namespace Timetable

def NamedZone.timeline (zone : NamedZone) : List Transition :=
  zone.transitions (List.range 10000)

/-- Offsets stay within a day, transitions within the calendar, and jumps are apart up to the end of
the first year with seasons. -/
structure NamedZone.IsTame (zone : NamedZone) : Prop where
  initial : IsOffset zone.initial
  listed : ∀ transition ∈ zone.listed, yearSecond 2 ≤ transition.second ∧
    transition.second + 4 * 86400 ≤ yearSecond 10000 ∧ IsOffset transition.offset
  seasons : ∀ seasons ∈ zone.seasons, seasons.IsTame ∧ 2 ≤ seasons.since
  steady : zone.seasons = none → Spaced 0 zone.initial zone.listed (yearSecond 10000)
    (zone.listed.foldl (fun _ transition => transition.offset) zone.initial)
  seasonal : ∀ seasons ∈ zone.seasons,
    Spaced 0 zone.initial (zone.listed ++ seasons.transitions seasons.since)
      (yearSecond (seasons.since + 1)) seasons.last

instance (zone : NamedZone) : Decidable zone.IsTame :=
  decidable_of_iff (_ ∧ _ ∧ _ ∧ _ ∧ _)
    ⟨fun ⟨initial, listed, seasons, steady, seasonal⟩ =>
        ⟨initial, listed, seasons, steady, seasonal⟩,
      fun ⟨initial, listed, seasons, steady, seasonal⟩ =>
        ⟨initial, listed, seasons, steady, seasonal⟩⟩

theorem Zone.isTame_of_mem_allNamed : ∀ zone ∈ allNamed, zone.IsTame := by
  decide +kernel

namespace NamedZone

variable {zone : NamedZone}

theorem timeline_of_steady (steady : zone.seasons = none) : zone.timeline = zone.listed := by
  simp [timeline, transitions, steady]

theorem timeline_of_seasonal {seasons : Seasons} (seasonal : zone.seasons = some seasons) :
    zone.timeline = zone.listed ++ seasons.transitionsBefore 10000 := by
  simp [timeline, transitions, seasonal, Seasons.transitionsBefore]

namespace IsTame

theorem mem_timeline (tame : zone.IsTame) {transition : Transition}
    (member : transition ∈ zone.timeline) :
    yearSecond 2 ≤ transition.second ∧ transition.second + 4 * 86400 ≤ yearSecond 10000 ∧
      IsOffset transition.offset := by
  cases seasonal : zone.seasons with
  | none =>
    rw [timeline_of_steady seasonal] at member
    exact tame.listed transition member
  | some seasons =>
    rw [timeline_of_seasonal seasonal, List.mem_append] at member
    cases member with
    | inl member => exact tame.listed transition member
    | inr member =>
      obtain ⟨regular, since⟩ := tame.seasons seasons seasonal
      obtain ⟨year, early, member⟩ := Seasons.mem_transitionsBefore.mp member
      have bounds := Seasons.mem_transitions regular member
      have opening := yearSecond_mono (Nat.le_trans since bounds.1)
      have closing : yearSecond (year + 1) ≤ yearSecond 10000 :=
        yearSecond_mono (Nat.succ_le_of_lt early)
      exact ⟨by omega, by omega, bounds.2.2.2⟩

theorem isOffset_listed (tame : zone.IsTame) :
    ∀ transition ∈ zone.listed, IsOffset transition.offset :=
  fun transition member => (tame.listed transition member).2.2

theorem isOffset_timeline (tame : zone.IsTame) :
    ∀ transition ∈ zone.timeline, IsOffset transition.offset :=
  fun _ member => (tame.mem_timeline member).2.2

theorem spaced_timeline (tame : zone.IsTame) :
    ∃ ceiling after, Spaced 0 zone.initial zone.timeline ceiling after := by
  cases seasonal : zone.seasons with
  | none =>
    rw [timeline_of_steady seasonal]
    exact ⟨_, _, tame.steady seasonal⟩
  | some seasons =>
    obtain ⟨regular, -⟩ := tame.seasons seasons seasonal
    have since := regular.2.1
    -- Each year after the first one with seasons begins with the offset that ended the last.
    have upTo : ∀ years, Spaced 0 zone.initial
        (zone.listed ++ seasons.transitionsBefore (seasons.since + 1 + years))
        (yearSecond (seasons.since + 1 + years)) seasons.last := by
      intro years
      induction years with
      | zero =>
        rw [Nat.add_zero, Seasons.transitionsBefore_succ,
          Seasons.transitionsBefore_since (Nat.le_refl _), List.nil_append]
        exact tame.seasonal seasons seasonal
      | succ years ih =>
        rw [← Nat.add_assoc, Seasons.transitionsBefore_succ, ← List.append_assoc]
        exact ih.append (Seasons.spaced regular (by omega) (Seasons.isOffset_last regular))
    have all := upTo (10000 - (seasons.since + 1))
    rw [Nat.add_sub_cancel' since] at all
    rw [timeline_of_seasonal seasonal]
    exact ⟨_, _, all⟩

theorem offsetAfter_timeline (tame : zone.IsTame) {reached : Int → Transition → Bool} {year : Nat}
    (positive : 1 ≤ year) (bounded : year ≤ 9999) (settled : Seasons.Settles reached year) :
    offsetAfter reached zone.initial (zone.transitions (yearsFor year)) =
      offsetAfter reached zone.initial zone.timeline := by
  cases seasonal : zone.seasons with
  | none => simp only [timeline, transitions, seasonal]
  | some seasons =>
    obtain ⟨regular, -⟩ := tame.seasons seasons seasonal
    obtain ⟨year, rfl⟩ := Nat.exists_eq_add_of_le' positive
    have two : zone.transitions (yearsFor (year + 1)) =
        zone.listed ++ (seasons.transitions year ++ seasons.transitions (year + 1)) := by
      simp [transitions, seasonal, yearsFor]
    rw [two, timeline_of_seasonal seasonal]
    exact offsetAfter_append_congr tame.initial tame.isOffset_listed fun before moderate =>
      Seasons.offsetAfter_two_years regular settled (Nat.lt_succ_of_le bounded) moderate

theorem offsetAt_eq (tame : zone.IsTame) (universal : Wall) :
    zone.offsetAt (Zone.yearOf universal.micros) universal.micros =
      offsetByInstant zone.initial zone.timeline universal.micros := by
  obtain ⟨positive, bounded, opening, closing⟩ := yearOf_spec universal
  refine tame.offsetAfter_timeline positive bounded ⟨?_, ?_⟩
  · intro offset _ transition _ past
    exact decide_eq_true (show transition.second * 1000000 ≤ (universal.micros : Int) by omega)
  · intro offset _ transition _ ahead
    exact decide_eq_false (Int.not_le.mpr
      (show (universal.micros : Int) < transition.second * 1000000 by omega))

theorem offsetOf_eq (tame : zone.IsTame) (wall : Wall) :
    zone.offsetOf (Zone.yearOf wall.micros) false wall.micros =
      offsetByReading zone.initial zone.timeline wall.micros := by
  obtain ⟨positive, bounded, opening, closing⟩ := yearOf_spec wall
  show offsetAfter (fun before transition =>
    decide ((transition.second + max before transition.offset) * secondMicros ≤ wall.micros))
    zone.initial (zone.transitions (yearsFor (Zone.yearOf wall.micros))) = _
  refine tame.offsetAfter_timeline positive bounded ⟨?_, ?_⟩
  · intro offset moderate transition other past
    exact decide_eq_true (show (transition.second + max offset transition.offset) * 1000000 ≤
      (wall.micros : Int) by omega)
  · intro offset moderate transition other ahead
    exact decide_eq_false (Int.not_le.mpr (show (wall.micros : Int) <
      (transition.second + max offset transition.offset) * 1000000 by omega))

/-- At the ends of the calendar clocks do not jump, so that a reading that is taken for a time of
the calendar is never replaced by one outside. -/
theorem shown_within (tame : zone.IsTame) {universal wall : Wall}
    (taken : wall.micros - offsetByReading zone.initial zone.timeline wall.micros * 1000000 =
      universal.micros) :
    0 ≤ universal.micros + offsetByInstant zone.initial zone.timeline universal.micros * 1000000 ∧
      universal.micros + offsetByInstant zone.initial zone.timeline universal.micros * 1000000 <
        calendarMicros := by
  have reading : IsOffset (offsetByReading zone.initial zone.timeline wall.micros) :=
    isOffset_offsetAfter tame.initial tame.isOffset_timeline
  have instant : IsOffset (offsetByInstant zone.initial zone.timeline universal.micros) :=
    isOffset_offsetAfter tame.initial tame.isOffset_timeline
  have bounded := wall.bounded
  have second : yearSecond 2 = 365 * 86400 := by decide
  have last := yearSecond_last
  by_cases early : (wall.micros : Int) < 2 * 86400 * 1000000
  · have unreached : offsetByReading zone.initial zone.timeline wall.micros = zone.initial := by
      refine offsetAfter_of_ahead fun transition member => decide_eq_false (Int.not_le.mpr ?_)
      have bounds := tame.mem_timeline member
      have moderate := tame.initial
      exact show (wall.micros : Int) <
        (transition.second + max zone.initial transition.offset) * 1000000 by omega
    have ahead : offsetByInstant zone.initial zone.timeline universal.micros = zone.initial := by
      refine offsetAfter_of_ahead fun transition member => decide_eq_false (Int.not_le.mpr ?_)
      have bounds := tame.mem_timeline member
      exact show (universal.micros : Int) < transition.second * 1000000 by omega
    omega
  · by_cases late : (calendarMicros : Int) - 2 * 86400 * 1000000 ≤ wall.micros
    · have same : offsetByInstant zone.initial zone.timeline universal.micros =
          offsetByReading zone.initial zone.timeline wall.micros := by
        refine offsetAfter_congr tame.initial tame.isOffset_timeline
          fun offset moderate transition member => ?_
        have bounds := tame.mem_timeline member
        have past : transition.second * 1000000 ≤ (universal.micros : Int) := by omega
        have reached : (transition.second + max offset transition.offset) * 1000000 ≤
            (wall.micros : Int) := by
          omega
        exact (decide_eq_true past).trans (decide_eq_true reached).symm
      omega
    · omega

end IsTame

end NamedZone

end Timetable
