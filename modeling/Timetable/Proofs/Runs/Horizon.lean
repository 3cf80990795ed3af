import Timetable.Proofs.Chain.Rearmed

/-! How far ahead a run is planned.

A search ends after the days of the default horizon, and offsets differ by two days at most, so that
no run is planned for a time that is more than some two years ahead.
-/

set_option autoImplicit false

namespace Timetable

variable {zone : Zone} {rule : Rule} {time other run : DateTime} {universal later : Wall}

/-- Readings of one zone lie as far apart as their instants, up to two days. -/
theorem DateTime.IsAt.drift (known : zone.IsKnown) (shown : time.IsAt zone universal)
    (further : other.IsAt zone later) :
    (later.micros : Int) - universal.micros ≤
      other.wall.micros - time.wall.micros + 2 * dayMicros := by
  -- A reading is that of its instant, moved by an offset of the zone.
  have moved : ∀ {time : DateTime} {universal : Wall}, time.IsAt zone universal →
      (time.wall.micros : Int) - zone.offsetOf time.fold time.wall * secondMicros =
        universal.micros := by
    intro time universal shown
    have taken := shown.taken
    simp only [instant, offset?, shown.placed, Option.map_some] at taken
    obtain ⟨wall, read, same⟩ := Wall.map_micros_eq_ok.mp taken
    exact read.trans same.symm
  have first := moved shown
  have second := moved further
  cases zone with
  | fixed offset =>
    simp only [Zone.offsetOf] at first second
    simp only [dayMicros, secondMicros] at first second ⊢
    omega
  | named own =>
    have tame := Zone.isTame_of_mem_allNamed own (known own rfl)
    have here := tame.isOffset_offsetOf (Zone.yearOf time.wall.micros) time.fold time.wall.micros
    have there := tame.isOffset_offsetOf (Zone.yearOf other.wall.micros) other.fold other.wall.micros
    simp only [Zone.offsetOf] at first second
    simp only [IsOffset, dayMicros, secondMicros] at first second here there ⊢
    omega

theorem Rule.date_lt_of_nextRun (known : zone.IsKnown) (placed : time.zone = some zone)
    (found : rule.nextRun time = .ok (some run)) :
    run.wall.date.number < time.wall.date.number + defaultHorizon := by
  obtain ⟨search, begun, first⟩ := nextRun_eq_some found
  obtain ⟨start, hours, minutes, seconds, -, times, rfl⟩ := after?_eq_some begun
  rw [placed] at first
  exact (@Search.isRun_of_mem ⟨rule, zone, start, time.wall.date, _⟩ _ _ _ _ _ known times rfl
    (List.mem_of_head? first)).2

def horizonMicros : Int := 70368744177664

theorem Rule.near_of_nextRun (known : zone.IsKnown) (shown : time.IsAt zone universal)
    (further : run.IsAt zone later) (found : rule.nextRun time = .ok (some run)) :
    (later.micros : Int) < universal.micros + horizonMicros := by
  have within := Rule.date_lt_of_nextRun known shown.placed found
  have drift := shown.drift known further
  simp only [Wall.date, defaultHorizon, dayMicros, secondMicros] at within drift
  simp only [horizonMicros]
  omega

/-- A task whose chain is not ahead of the clock is armed for a time near the present. -/
theorem State.IsPlanned.near {state : State} {number : Nat} {after : Option DateTime}
    {due : DateTime} (known : state.setting.zone.IsKnown)
    (planned : state.IsPlanned number after due)
    (reached : ∀ time, after = some time → ∃ universal : Wall,
      time.IsAt state.setting.zone universal ∧ (universal.micros : Int) ≤ state.clock)
    (further : due.IsAt state.setting.zone later) :
    (later.micros : Int) < state.clock + horizonMicros := by
  obtain ⟨now, time, shown, planned, found⟩ := planned
  have near : time = now → (later.micros : Int) < state.clock + horizonMicros := by
    rintro rfl
    obtain ⟨start, taken⟩ := Rule.instant_of_nextRun found
    obtain ⟨present, clock, current⟩ := DateTime.isAt_ofInstant known shown taken
    rw [clock]
    exact Rule.near_of_nextRun known current further found
  cases after with
  | none => exact near (Except.ok.inj planned).symm
  | some time =>
    obtain ⟨universal, shows, past⟩ := reached time rfl
    obtain ⟨start, taken, same⟩ := planFrom_some shows.taken planned
    obtain ⟨present, clock, current⟩ := DateTime.isAt_ofInstant known shown taken
    obtain rfl := Except.ok.inj (current.taken.symm.trans taken)
    rw [clock] at past
    rw [if_neg (Int.not_lt.mpr past)] at same
    exact near same

end Timetable
