import Timetable.Proofs.Attempts
import Timetable.Proofs.Zone.Shown

/-! The zone of the machine.

It is found by way of what the clock of the machine shows, now and at times nearby. Years that the
calendar does not have come in the way of that near its ends, and only there.
-/

set_option autoImplicit false

namespace Timetable

/-- The fault is a reading or an instant for which the calendar has no year. -/
def Fault.IsOffCalendar (fault : Fault) : Prop :=
  fault = .noSuchYear 0 ∨ fault = .noSuchYear 10000 ∨ fault = .outsideCalendar

theorem Wall.exists_of_within (micros : Int) (past : 0 ≤ micros) (within : micros < calendarMicros) :
    ∃ wall : Wall, micros = wall.micros :=
  ⟨⟨micros.toNat, (Int.toNat_lt past).mpr within⟩, (Int.toNat_of_nonneg past).symm⟩

namespace MachineZone

variable {clock instant : Int} {machine : MachineZone}

/-- The zone of the machine can be told at an instant. The calendar then has the instant, what the
clock of the machine shows, a day before that, and what it shows once that reading is universal
time. -/
structure Tells (machine : MachineZone) (clock : Int) : Prop where
  present : 0 ≤ clock ∧ clock < calendarMicros
  shown : dayMicros ≤ clock + machine.offset * secondMicros ∧
    clock + machine.offset * secondMicros < calendarMicros
  shifted : 0 ≤ clock + 2 * (machine.offset * secondMicros) ∧
    clock + 2 * (machine.offset * secondMicros) < calendarMicros

theorem tells_universal : universal.Tells clock ↔ dayMicros ≤ clock ∧ clock < calendarMicros := by
  constructor
  · rintro ⟨present, shown, -⟩
    simp only [universal, Int.zero_mul, Int.add_zero] at shown
    exact shown
  · rintro ⟨past, within⟩
    have nonneg : 0 ≤ clock := Int.le_trans (Int.natCast_nonneg dayMicros) past
    exact ⟨⟨nonneg, within⟩, by simpa [universal] using And.intro past within,
      by simpa [universal] using And.intro nonneg within⟩

theorem tells_of_inner (machine : MachineZone) (past : 2 * dayMicros ≤ clock)
    (ahead : clock + 2 * dayMicros ≤ calendarMicros) : machine.Tells clock := by
  obtain ⟨least, greatest⟩ := machine.short
  simp only [dayMicros, secondMicros] at past ahead
  refine ⟨by omega, ?_, ?_⟩ <;> simp only [dayMicros, secondMicros] <;> omega

theorem reading_cases (machine : MachineZone) (instant : Int) :
    (∃ wall : Wall, machine.reading instant = .ok wall ∧
      instant + machine.offset * secondMicros = wall.micros) ∨
    ∃ fault : Fault, machine.reading instant = .error fault ∧ fault.IsOffCalendar ∧
      ¬(0 ≤ instant + machine.offset * secondMicros ∧
        instant + machine.offset * secondMicros < calendarMicros) := by
  by_cases early : instant + machine.offset * secondMicros < 0
  · exact .inr ⟨.noSuchYear 0, if_pos early, .inl rfl, fun within => Int.not_le.mpr early within.1⟩
  by_cases late : calendarMicros ≤ instant + machine.offset * secondMicros
  · refine .inr ⟨.noSuchYear 10000, ?_, .inr (.inl rfl), fun within => Int.not_le.mpr within.2 late⟩
    rw [reading, if_neg early, if_pos late]
  · obtain ⟨wall, same⟩ := Wall.exists_of_within _ (Int.not_lt.mp early) (Int.not_le.mp late)
    refine .inl ⟨wall, ?_, same⟩
    rw [reading, if_neg early, if_neg late]
    exact Wall.ofMicros_eq_ok.mpr same

end MachineZone

theorem Zone.ofMachine_cases (clock : Int) (machine : MachineZone) :
    machine.Tells clock ∧ ofMachine clock machine = .ok machine.zone ∨
      ¬machine.Tells clock ∧
        ∃ fault : Fault, ofMachine clock machine = .error fault ∧ fault.IsOffCalendar := by
  obtain ⟨wall, read, shown⟩ | ⟨fault, read, off, outside⟩ := machine.reading_cases clock
  swap
  · refine .inr ⟨fun tells => outside ?_, fault, by rw [ofMachine, read]; rfl, off⟩
    exact ⟨Int.le_trans (Int.natCast_nonneg dayMicros) tells.shown.1, tells.shown.2⟩
  have taken : (wall.micros : Int) - machine.offset * secondMicros = clock := by omega
  simp only [ofMachine, read, DateTime.instant, DateTime.offset?, Option.map_none,
    MachineZone.instantOf, Bool.false_eq_true, if_false, taken, bind, Except.bind, pure, Except.pure]
  obtain ⟨other, read, shifted⟩ | ⟨fault, read, off, outside⟩ := machine.reading_cases wall.micros
  swap
  · refine .inr ⟨fun tells => outside ?_, fault, by rw [read], off⟩
    have within := tells.shifted
    omega
  obtain ⟨earlier, readEarlier, before⟩ | ⟨fault, readEarlier, off, outside⟩ :=
    machine.reading_cases (clock - dayMicros)
  swap
  · refine .inr ⟨fun tells => outside ?_, fault, by rw [read, readEarlier], off⟩
    have within := tells.shown
    omega
  simp only [read, readEarlier]
  by_cases present : 0 ≤ clock ∧ clock < calendarMicros
  · obtain ⟨universal, same⟩ := Wall.exists_of_within clock present.1 present.2
    refine .inl ⟨⟨present, ?_, ?_⟩, by rw [Wall.ofMicros_eq_ok.mpr same]; rfl⟩
    · have bounded := wall.bounded
      omega
    · have bounded := other.bounded
      omega
  · have outside : Wall.ofMicros clock = .error .outsideCalendar := dif_neg present
    exact .inr ⟨fun tells => present tells.present, .outsideCalendar, by rw [outside]; rfl,
      .inr (.inr rfl)⟩

theorem Zone.ofMachine_eq {clock : Int} {machine : MachineZone} (tells : machine.Tells clock) :
    ofMachine clock machine = .ok machine.zone :=
  (ofMachine_cases clock machine).resolve_right (fun untold => untold.1 tells) |>.2

end Timetable
