import Mathlib.Tactic.Linarith
import Timetable.Occurrence

/-! Waits pass through double precision.

A wait is turned into seconds, as a double, and back into microseconds. Below some two years both steps
together lose less than half a microsecond, so that the wait comes back as it was.
-/

set_option autoImplicit false

namespace Timetable

structure IsNear (n numerator denominator : Nat) : Prop where
  notAbove : 2 * (n * denominator) ≤ 2 * numerator + denominator
  notBelow : 2 * numerator ≤ 2 * (n * denominator) + denominator

variable {n numerator denominator : Nat}

theorem roundRatio_near (positive : 0 < denominator) :
    IsNear (roundRatio numerator denominator) numerator denominator := by
  have parts := Nat.div_add_mod numerator denominator
  have below := Nat.mod_lt numerator positive
  have up : (numerator / denominator + 1) * denominator =
      denominator * (numerator / denominator) + denominator := by
    rw [Nat.add_mul, Nat.one_mul, Nat.mul_comm]
  have down : numerator / denominator * denominator = denominator * (numerator / denominator) :=
    Nat.mul_comm _ _
  have either : roundRatio numerator denominator = numerator / denominator ∧
        2 * (numerator % denominator) ≤ denominator ∨
      roundRatio numerator denominator = numerator / denominator + 1 ∧
        denominator ≤ 2 * (numerator % denominator) := by
    unfold roundRatio
    dsimp only
    split
    · exact .inl ⟨rfl, by omega⟩
    · split
      · exact .inr ⟨rfl, by omega⟩
      · -- A tie goes to the even neighbour, and both are equally near.
        rcases Nat.mod_two_eq_zero_or_one (numerator / denominator) with even | odd
        · exact .inl ⟨by rw [even, Nat.add_zero], by omega⟩
        · exact .inr ⟨by rw [odd], by omega⟩
  rcases either with ⟨same, half⟩ | ⟨same, half⟩
  · constructor <;> rw [same, down] <;> omega
  · constructor <;> rw [same, up] <;> omega

theorem roundRatio_eq (above : 2 * (n * denominator) < 2 * numerator + denominator)
    (below : 2 * numerator < 2 * (n * denominator) + denominator) :
    roundRatio numerator denominator = n := by
  obtain ⟨notAbove, notBelow⟩ := @roundRatio_near numerator denominator (by omega)
  rcases Nat.lt_trichotomy (roundRatio numerator denominator) n with less | same | greater
  · have step := Nat.mul_le_mul_right denominator (Nat.succ_le_of_lt less)
    rw [Nat.succ_mul] at step
    omega
  · exact same
  · have step := Nat.mul_le_mul_right denominator (Nat.succ_le_of_lt greater)
    rw [Nat.succ_mul] at step
    omega

namespace Binary64

variable {negative : Bool} {places : Nat}

theorem lastPlace_le (few : places ≤ 1074)
    (small : Nat.log2 numerator + places ≤ Nat.log2 denominator + 52) :
    lastPlace numerator denominator ≤ -(places : Int) := by
  unfold lastPlace
  dsimp only
  refine Int.max_le.mpr ⟨?_, by omega⟩
  split <;> omega

/-- A small ratio is rounded to a number of binary places, and the double is less than half a unit of
the last one away. -/
theorem ofRatio_near (positive : 0 < numerator) (proper : 0 < denominator) (few : places < 1074)
    (small : Nat.log2 numerator + places < Nat.log2 denominator + 52) :
    ∃ mantissa kept : Nat, places ≤ kept ∧
      ofRatio negative numerator denominator = .finite negative mantissa (-(kept : Int)) ∧
        IsNear mantissa (numerator * 2 ^ kept) denominator := by
  have last := @lastPlace_le numerator denominator (places + 1) (by omega) (by omega)
  obtain ⟨kept, place⟩ : ∃ kept : Nat, lastPlace numerator denominator = -(kept : Int) :=
    ⟨(-lastPlace numerator denominator).toNat, by omega⟩
  rw [place] at last
  have near := @roundRatio_near (numerator * 2 ^ kept) denominator proper
  have scaled : twoTo (-(-(kept : Int))).toNat = 2 ^ kept := by
    rw [Int.neg_neg, Int.toNat_natCast]
    rfl
  have fraction : ¬ (0 : Int) ≤ -(kept : Int) := by omega
  unfold ofRatio
  rw [if_neg (Nat.ne_of_gt positive)]
  dsimp only
  simp only [place, fraction, if_false, scaled]
  generalize roundRatio (numerator * 2 ^ kept) denominator = mantissa at near
  by_cases carried : mantissa = twoTo 53
  · -- The carry halves the mantissa and takes one place away.
    obtain ⟨fewer, rfl⟩ : ∃ fewer, kept = fewer + 1 := ⟨kept - 1, by omega⟩
    refine ⟨twoTo 52, fewer, by omega, ?_, ?_⟩
    · rw [if_pos carried]
      dsimp only
      rw [if_neg (by omega)]
      congr 1
      omega
    · have whole : twoTo 53 * denominator = 2 * (twoTo 52 * denominator) :=
        Nat.mul_assoc 2 (twoTo 52) denominator
      have halves : numerator * 2 ^ (fewer + 1) = 2 * (numerator * 2 ^ fewer) := by
        rw [Nat.pow_succ, ← Nat.mul_assoc, Nat.mul_comm]
      obtain ⟨notAbove, notBelow⟩ := near
      rw [carried, whole, halves] at notAbove notBelow
      constructor <;> omega
  · refine ⟨mantissa, kept, by omega, ?_, near⟩
    rw [if_neg carried]
    dsimp only
    rw [if_neg (by omega)]

theorem ratio_of_places {mantissa kept : Nat} (some : 0 < kept) :
    ratio mantissa (-(kept : Int)) = (mantissa, 2 ^ kept) := by
  unfold ratio
  rw [if_neg (by omega), Int.neg_neg, Int.toNat_natCast]
  rfl

theorem times_of_places {mantissa kept : Nat} (some : 0 < kept) (factor : Nat) :
    (finite negative mantissa (-(kept : Int))).times factor =
      ofRatio negative (mantissa * factor) (2 ^ kept) := by
  rw [times, ratio_of_places some]

theorem scaled_of_places {mantissa kept : Nat} (some : 0 < kept) :
    (finite false mantissa (-(kept : Int))).scaled 1 = roundRatio (mantissa * 1) (2 ^ kept) := by
  rw [scaled, ratio_of_places some]
  rfl

theorem ofRatio_sign (negative : Bool) (numerator denominator : Nat) :
    (∃ mantissa exponent, ofRatio negative numerator denominator =
        .finite negative mantissa exponent) ∨
      ofRatio negative numerator denominator = .infinite negative := by
  unfold ofRatio
  by_cases zero : numerator = 0
  · exact .inl ⟨0, 0, if_pos zero⟩
  · rw [if_neg zero]
    dsimp only
    generalize (if _ = twoTo 53 then _ else _ : Nat × Int) = rounded
    by_cases beyond : 971 < rounded.2
    · exact .inr (if_pos beyond)
    · exact .inl ⟨rounded.1, rounded.2, if_neg beyond⟩

theorem scaled_times_nonpos (numerator unit : Nat) :
    ((ofRatio true numerator unit).times unit).scaled 1 ≤ 0 := by
  rcases ofRatio_sign true numerator unit with ⟨mantissa, exponent, same⟩ | same
  · rw [same, times]
    rcases ofRatio_sign true ((ratio mantissa exponent).1 * unit) (ratio mantissa exponent).2 with
      ⟨_, _, same⟩ | same <;> simp [same, scaled]
  · rw [same]
    exact Int.le_refl 0

end Binary64

theorem throughSeconds_def (wait : Int) : throughSeconds wait =
    ((Binary64.ofRatio (decide (wait < 0)) wait.natAbs secondMicros).times secondMicros).scaled 1 :=
  rfl

theorem lost_lt {seconds micros : Nat} (fine : 2 ^ 25 ≤ seconds) (coarse : 2 ^ 6 ≤ micros) :
    secondMicros * micros + seconds < micros * seconds := by
  have many : 64 * seconds ≤ micros * seconds := Nat.mul_le_mul_right seconds coarse
  have more : 2 ^ 25 * micros ≤ seconds * micros := Nat.mul_le_mul_right micros fine
  unfold secondMicros
  rw [Nat.mul_comm micros seconds] at many ⊢
  omega

/-- A wait of less than two years passes through double precision unchanged. -/
theorem throughSeconds_eq {wait : Nat} (short : wait < 2 ^ 46) : throughSeconds wait = wait := by
  rcases Nat.eq_zero_or_pos wait with rfl | positive
  · decide
  have bits : Nat.log2 wait ≤ 45 := by
    have := (Nat.log2_lt (Nat.ne_of_gt positive)).mpr short
    omega
  obtain ⟨seconds, kept, fine, divided, near⟩ :=
    @Binary64.ofRatio_near wait secondMicros false 25 positive (by decide) (by decide)
      (by rw [show Nat.log2 secondMicros = 19 by decide]; omega)
  have pow : 2 ^ 25 ≤ 2 ^ kept := Nat.pow_le_pow_right (by decide) fine
  have some : 0 < seconds := by
    rcases Nat.eq_zero_or_pos seconds with rfl | some
    · have far := Nat.mul_le_mul positive pow
      have close := near.notBelow
      unfold secondMicros at close
      omega
    · exact some
  have bound : seconds * secondMicros < 2 ^ (kept + 46) := by
    have product : wait * 2 ^ kept ≤ (2 ^ 46 - 1) * 2 ^ kept :=
      Nat.mul_le_mul_right _ (by omega)
    have close := near.notAbove
    rw [Nat.pow_add]
    unfold secondMicros at close ⊢
    omega
  have more : Nat.log2 (seconds * secondMicros) < kept + 46 :=
    (Nat.log2_lt (Nat.ne_of_gt (Nat.mul_pos some (by decide)))).mpr bound
  obtain ⟨micros, left, coarse, multiplied, nearToo⟩ :=
    @Binary64.ofRatio_near (seconds * secondMicros) (2 ^ kept) false 6
      (Nat.mul_pos some (by decide)) (Nat.pow_pos (by decide)) (by decide)
      (by rw [Nat.log2_two_pow]; omega)
  have powToo : 2 ^ 6 ≤ 2 ^ left := Nat.pow_le_pow_right (by decide) coarse
  have rounded : roundRatio (micros * 1) (2 ^ left) = wait := by
    have lost := lost_lt pow powToo
    obtain ⟨notAbove, notBelow⟩ := near
    obtain ⟨notAboveToo, notBelowToo⟩ := nearToo
    have factor : 0 < 2 ^ kept := Nat.pow_pos (by decide)
    apply roundRatio_eq
    · refine Nat.lt_of_mul_lt_mul_right (a := 2 ^ kept) ?_
      nlinarith [Nat.mul_le_mul_right (2 ^ left) notBelow]
    · refine Nat.lt_of_mul_lt_mul_right (a := 2 ^ kept) ?_
      nlinarith [Nat.mul_le_mul_right (2 ^ left) notAbove]
  have sign : decide ((wait : Int) < 0) = false := decide_eq_false (by omega)
  rw [throughSeconds_def, sign, Int.natAbs_natCast, divided,
    Binary64.times_of_places (show 0 < kept by omega), multiplied,
    Binary64.scaled_of_places (show 0 < left by omega), rounded]

theorem throughSeconds_nonpos {wait : Int} (negative : wait < 0) : throughSeconds wait ≤ 0 := by
  rw [throughSeconds_def, decide_eq_true negative]
  exact Binary64.scaled_times_nonpos _ _

theorem throughSeconds_le {wait limit : Int} (within : wait ≤ limit) (positive : 0 ≤ limit)
    (short : limit < 2 ^ 46) : throughSeconds wait ≤ limit := by
  rcases Int.lt_or_le wait 0 with negative | natural
  · exact Int.le_trans (throughSeconds_nonpos negative) positive
  · obtain ⟨n, rfl⟩ := Int.eq_ofNat_of_zero_le natural
    rw [throughSeconds_eq (by omega)]
    exact within

end Timetable
