import Timetable.Cron
import Timetable.Occurrence

/-! Rules that were read.

Whatever the text or the mapping, every field of a rule that was read suits its part. Such a rule
can be asked about any date, and the times of day that it generates lie in their domains.
-/

set_option autoImplicit false

namespace Timetable

namespace Rule

def IsFormed (rule : Rule) : Prop :=
  ∀ part, ∀ field ∈ rule.get part, field.valid part = true

def IsRead (rule : Rule) : Prop :=
  (∃ value path, ofValue value path = .ok rule) ∨ ∃ value, Cron.ruleOfValue value = .ok rule

section Reading

variable {part : Part} {path : String} {fields : List Field} {rule : Rule}

theorem isFormed_midnight : midnight.IsFormed := by
  intro part
  cases part <;> decide

theorem valid_of_fieldFor {item : Value} {field : Field}
    (read : fieldFor part path item = .ok field) : field.valid part = true := by
  simp only [fieldFor] at read
  split at read
  · cases read
  · split at read
    case isTrue suits =>
      cases read
      exact suits
    case isFalse => cases read

theorem valid_of_fieldsFrom {index : Nat} {items : List Value}
    (read : fieldsFrom part path index items = .ok fields) :
    ∀ field ∈ fields, field.valid part = true := by
  induction items generalizing index fields with
  | nil =>
    cases read
    exact fun _ member => absurd member List.not_mem_nil
  | cons item rest ih =>
    simp only [fieldsFrom] at read
    split at read
    · cases read
    next field first =>
      cases others : fieldsFrom part path (index + 1) rest with
      | error error =>
        rw [others] at read
        cases read
      | ok fields =>
        rw [others] at read
        cases read
        exact List.forall_mem_cons.mpr ⟨valid_of_fieldFor first, ih others⟩

theorem valid_of_fieldsOf {given : List (Part × Value)}
    (read : fieldsOf path given part = .ok fields) : ∀ field ∈ fields, field.valid part = true := by
  simp only [fieldsOf] at read
  split at read
  · cases read
    exact isFormed_midnight part
  · split at read
    · cases read
    · exact valid_of_fieldsFrom read

theorem isFormed_of_fill {given : List (Part × Value)} {parts : List Part} {filled : Rule}
    (formed : rule.IsFormed) (read : fill path given rule parts = .ok filled) :
    filled.IsFormed := by
  induction parts generalizing rule with
  | nil =>
    cases read
    exact formed
  | cons part rest ih =>
    simp only [fill] at read
    split at read
    · cases read
    next fields first =>
      refine ih (fun other field member => ?_) read
      rw [get_set] at member
      split at member
      next same => exact same ▸ valid_of_fieldsOf first field member
      next => exact formed other field member

theorem isFormed_of_ofEntries {entries : List (Value × Value)}
    (read : ofEntries path entries = .ok rule) : rule.IsFormed := by
  simp only [ofEntries] at read
  split at read
  · cases read
  · exact isFormed_of_fill isFormed_midnight read

theorem isFormed_of_ofValue {value : Value} (read : ofValue value path = .ok rule) :
    rule.IsFormed := by
  simp only [ofValue] at read
  split at read
  · cases read
    exact isFormed_midnight
  · exact isFormed_of_ofEntries read
  · cases read

theorem isFormed_of_cron {expression : String} (read : Cron.rule expression = .ok rule) :
    rule.IsFormed := by
  simp only [Cron.rule] at read
  split at read
  · cases read
  · split at read
    next known =>
      cases read
      exact isFormed_of_ofEntries known
    · cases read

theorem IsRead.isFormed (read : rule.IsRead) : rule.IsFormed := by
  obtain ⟨value, path, read⟩ | ⟨value, read⟩ := read
  · exact isFormed_of_ofValue read
  · cases value with
    | text s => exact isFormed_of_cron read
    | _ => cases read

end Reading

end Rule

theorem Domain.contains_iff {domain : Domain} {value : Int} :
    domain.contains value = true ↔ domain.low ≤ value ∧ value ≤ domain.high := by
  simp [Domain.contains]

namespace Field

variable {part : Part} {field : Field}

theorem mem_progression {first step n : Int} {count : Nat} :
    n ∈ progression first step count ↔ ∃ k < count, n = first + step * (k : Int) := by
  simp [progression, eq_comm]

theorem generated_spec (first : Int) {step : Int} (positive : 0 < step) :
    ∃ values, generated part first step = .ok values ∧
      ∀ n ∈ values, part.domain.contains n = true := by
  simp only [generated, if_neg (Int.ne_of_gt positive), if_neg (Int.not_lt.mpr (Int.le_of_lt positive))]
  exact ⟨_, rfl, fun n member => (List.mem_filter.mp member).2⟩

theorem values_spec (suits : field.valid part = true) :
    ∃ values, field.values part = .ok values ∧ ∀ n ∈ values, part.domain.contains n = true := by
  cases field with
  | exact n => exact ⟨[n], rfl, fun m member => List.mem_singleton.mp member ▸ suits⟩
  | alternation members => exact ⟨members, rfl, List.all_eq_true.mp suits⟩
  | range start finish =>
    refine ⟨_, rfl, fun n member => ?_⟩
    obtain ⟨k, below, rfl⟩ := mem_progression.mp member
    simp only [valid, Bool.and_eq_true, Domain.contains_iff] at suits ⊢
    omega
  | star =>
    refine ⟨_, rfl, fun n member => ?_⟩
    obtain ⟨k, below, rfl⟩ := mem_progression.mp member
    rw [Domain.contains_iff]
    omega
  | repetition rep =>
    simp only [valid, Bool.and_eq_true, decide_eq_true_eq] at suits
    exact generated_spec 0 suits.1
  | shifted shift rep =>
    simp only [valid, Bool.and_eq_true, decide_eq_true_eq] at suits
    exact generated_spec shift suits.1

theorem matchesValue_spec (suits : field.valid part = true) (value : Int) :
    ∃ matched, field.matchesValue value = .ok matched := by
  cases field with
  | repetition rep | shifted shift rep =>
    simp only [valid, Bool.and_eq_true, decide_eq_true_eq] at suits
    simp only [matchesValue, divides, if_neg (Int.ne_of_gt suits.1)]
    exact ⟨_, rfl⟩
  | _ => exact ⟨_, rfl⟩

end Field

namespace Rule

section Candidates

variable {list : List Int} {n m : Int}

theorem mem_insertIncreasing : m ∈ insertIncreasing n list ↔ m = n ∨ m ∈ list := by
  induction list with
  | nil => simp [insertIncreasing]
  | cons first rest ih =>
    simp only [insertIncreasing]
    split
    · simp
    · split
      next same => simp [same]
      next => simp only [List.mem_cons, ih, or_left_comm]

theorem pairwise_insertIncreasing (increasing : list.Pairwise (· < ·)) :
    (insertIncreasing n list).Pairwise (· < ·) := by
  induction list with
  | nil => simp [insertIncreasing]
  | cons first rest ih =>
    obtain ⟨above, others⟩ := List.pairwise_cons.mp increasing
    simp only [insertIncreasing]
    split
    next below =>
      refine List.pairwise_cons.mpr ⟨fun m member => ?_, increasing⟩
      cases List.mem_cons.mp member with
      | inl same => exact same ▸ below
      | inr member => exact Int.lt_trans below (above m member)
    next notBelow =>
      split
      next => exact increasing
      next distinct =>
        refine List.pairwise_cons.mpr ⟨fun m member => ?_, ih others⟩
        cases mem_insertIncreasing.mp member with
        | inl same => omega
        | inr member => exact above m member

theorem mem_foldr_insertIncreasing :
    m ∈ list.foldr insertIncreasing [] ↔ m ∈ list := by
  induction list with
  | nil => rfl
  | cons first rest ih => rw [List.foldr_cons, mem_insertIncreasing, ih, List.mem_cons]

theorem pairwise_foldr_insertIncreasing :
    (list.foldr insertIncreasing []).Pairwise (· < ·) := by
  induction list with
  | nil => exact .nil
  | cons first rest ih => exact pairwise_insertIncreasing ih

end Candidates

variable {rule : Rule}

theorem generated_spec {part : Part} {fields : List Field}
    (suit : ∀ field ∈ fields, field.valid part = true) :
    ∃ values, generated part fields = .ok values ∧
      ∀ n ∈ values, part.domain.contains n = true := by
  induction fields with
  | nil => exact ⟨[], rfl, fun _ member => absurd member List.not_mem_nil⟩
  | cons field rest ih =>
    rw [List.forall_mem_cons] at suit
    obtain ⟨first, known, firstIn⟩ := Field.values_spec suit.1
    obtain ⟨others, knownOthers, othersIn⟩ := ih suit.2
    refine ⟨first ++ others, ?_, List.forall_mem_append.mpr ⟨firstIn, othersIn⟩⟩
    simp only [generated, known, knownOthers, Except.map]

theorem IsFormed.candidates_spec (formed : rule.IsFormed) (part : Part) :
    ∃ values, rule.candidates part = .ok values ∧ values.Pairwise (· < ·) ∧
      ∀ n ∈ values, part.domain.low ≤ n ∧ n ≤ part.domain.high := by
  obtain ⟨values, known, within⟩ := generated_spec (formed part)
  refine ⟨values.foldr insertIncreasing [], ?_, pairwise_foldr_insertIncreasing,
    fun n member => ?_⟩
  · simp only [candidates, known, Except.map]
  · exact Domain.contains_iff.mp (within n (mem_foldr_insertIncreasing.mp member))

theorem anyMatches_spec {part : Part} {fields : List Field} (value : Int)
    (suit : ∀ field ∈ fields, field.valid part = true) :
    ∃ matched, anyMatches value fields = .ok matched := by
  induction fields with
  | nil => exact ⟨false, rfl⟩
  | cons field rest ih =>
    rw [List.forall_mem_cons] at suit
    obtain ⟨matched, known⟩ := Field.matchesValue_spec suit.1 value
    simp only [anyMatches, known]
    cases matched with
    | true => exact ⟨true, rfl⟩
    | false => exact ih suit.2

theorem IsFormed.matchesDate_spec (formed : rule.IsFormed) (date : Date) :
    ∃ matched, rule.matchesDate date = .ok matched := by
  suffices all : ∀ parts, ∃ matched, rule.matchesParts date parts = .ok matched from
    all Part.ofDate
  intro parts
  induction parts with
  | nil => exact ⟨true, rfl⟩
  | cons part rest ih =>
    obtain ⟨matched, known⟩ := anyMatches_spec ((date.part? part).getD 0) (formed part)
    simp only [matchesParts, known]
    cases matched with
    | true => exact ih
    | false => exact ⟨false, rfl⟩

end Rule

end Timetable
