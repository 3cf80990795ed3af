import Timetable.Proofs.Cron.RoundTrip

/-! What fields generate and what they match.

Matching takes a range with its end and a shifted step without a beginning, while generation leaves
the end out and starts at the shift. Nothing else parts the two on the domain, and a field that was
read from a loose value always has something to generate.
-/

set_option autoImplicit false

namespace Timetable

namespace Field

/-- The number is neither the end of a range nor one from before a shift. -/
def Reaches (n : Int) : Field → Prop
  | .range _ finish => n < finish
  | .shifted shift _ => shift ≤ n
  | _ => True

/-- The field generates these values for a part: some of the domain, and all those that it matches
and reaches. -/
structure Covers (field : Field) (part : Part) (values : List Int) : Prop where
  known : field.values part = .ok values
  some : values ≠ []
  within : ∀ n ∈ values, part.domain.contains n = true
  exactly : ∀ n, part.domain.contains n = true →
    (n ∈ values ↔ field.matchesValue n = .ok true ∧ field.Reaches n)

section Progressions

variable {part : Part} {first step n : Int} {values : List Int}

/-- Counting up from `first` passes through the numbers below `bound` that lie whole steps away. -/
theorem mem_stepsBelow {bound : Int} (positive : 0 < step) :
    n ∈ progression first step (stepsBelow first step bound) ↔
      first ≤ n ∧ n < bound ∧ step ∣ n - first := by
  have below (k : Nat) : k < stepsBelow first step bound ↔ first + step * (k : Int) < bound := by
    rw [stepsBelow, Int.lt_toNat, Int.lt_iff_add_one_le, Int.le_ediv_iff_mul_le positive,
      Int.add_mul, Int.mul_comm (k : Int) step]
    omega
  rw [mem_progression]
  constructor
  · rintro ⟨k, within, rfl⟩
    have grown : 0 ≤ step * (k : Int) := Int.mul_nonneg (Int.le_of_lt positive) (Int.natCast_nonneg k)
    exact ⟨by omega, (below k).mp within, ⟨k, by omega⟩⟩
  · rintro ⟨least, less, k, apart⟩
    -- The number of steps is not negative, as `n` does not come before `first`.
    have steps : 0 ≤ k := by
      refine Int.not_lt.mp fun negative => ?_
      have shrunk := Int.mul_neg_of_pos_of_neg positive negative
      omega
    obtain ⟨k, rfl⟩ := Int.eq_ofNat_of_zero_le steps
    exact ⟨k, (below k).mpr (by omega), by omega⟩

theorem mem_generated (positive : 0 < step) (read : generated part first step = .ok values) :
    n ∈ values ↔ part.domain.contains n = true ∧ first ≤ n ∧ step ∣ n - first := by
  simp only [generated, if_neg (Int.ne_of_gt positive), if_neg (Int.lt_asymm positive)] at read
  cases read
  rw [List.mem_filter, mem_stepsBelow positive]
  constructor
  · rintro ⟨⟨least, -, apart⟩, within⟩
    exact ⟨within, least, apart⟩
  · rintro ⟨within, least, apart⟩
    have greatest := (Domain.contains_iff.mp within).2
    exact ⟨⟨least, Int.lt_add_one_of_le greatest, apart⟩, within⟩

theorem divides_eq_ok (positive : 0 < step) : divides step n = .ok true ↔ step ∣ n := by
  rw [divides, if_neg (Int.ne_of_gt positive), Except.ok.injEq, decide_eq_true_eq,
    Int.dvd_iff_emod_eq_zero]

end Progressions

section Fields

variable {part : Part} {field : Field} {item : Value} {n : Int} {values : List Int}

theorem mem_values (suits : field.valid part = true) (known : field.values part = .ok values)
    (within : part.domain.contains n = true) :
    n ∈ values ↔ field.matchesValue n = .ok true ∧ field.Reaches n := by
  obtain ⟨least, greatest⟩ := Domain.contains_iff.mp within
  cases field with
  | exact m =>
    cases known
    simp [matchesValue, Reaches]
  | alternation members =>
    cases known
    simp [matchesValue, Reaches]
  | range start finish =>
    cases known
    simp only [mem_progression, matchesValue, Reaches, Except.ok.injEq, Bool.and_eq_true,
      decide_eq_true_eq]
    constructor
    · rintro ⟨k, below, rfl⟩
      omega
    · rintro ⟨⟨after, -⟩, before⟩
      exact ⟨(n - start).toNat, by omega, by omega⟩
  | star =>
    cases known
    simp only [mem_progression, matchesValue, Reaches, and_self, iff_true]
    exact ⟨(n - part.domain.low).toNat, by omega, by omega⟩
  | repetition rep =>
    have positive : 0 < rep := of_decide_eq_true (Bool.and_eq_true_iff.mp suits).1
    have notBefore : 0 ≤ n := Int.le_trans (low_nonneg part) least
    rw [mem_generated positive known, matchesValue, divides_eq_ok positive, Int.sub_zero]
    exact ⟨fun made => ⟨made.2.2, trivial⟩, fun matched => ⟨within, notBefore, matched.1⟩⟩
  | shifted shift rep =>
    have positive : 0 < rep := of_decide_eq_true (Bool.and_eq_true_iff.mp suits).1
    rw [mem_generated positive known, matchesValue, divides_eq_ok positive]
    exact ⟨fun made => ⟨made.2.2, made.2.1⟩, fun matched => ⟨within, matched.2, matched.1⟩⟩

theorem low_mem_domain (part : Part) : part.domain.contains part.domain.low = true := by
  cases part <;> decide

/-- A field that suits its part and can be written names a value of the domain that it reaches. -/
theorem exists_reached (suits : field.valid part = true) (written : field.IsWritten) :
    ∃ n, part.domain.contains n = true ∧ field.matchesValue n = .ok true ∧ field.Reaches n := by
  cases field with
  | exact m => exact ⟨m, suits, by simp [matchesValue], trivial⟩
  | alternation members =>
    obtain ⟨m, member⟩ := List.exists_mem_of_ne_nil members written
    refine ⟨m, List.all_eq_true.mp suits m member, ?_, trivial⟩
    rw [matchesValue, List.contains_iff_mem.mpr member]
  | range start finish =>
    have ordered : start < finish := written
    refine ⟨start, (Bool.and_eq_true_iff.mp suits).1, ?_, ordered⟩
    simp [matchesValue, Int.le_of_lt ordered]
  | star => exact ⟨part.domain.low, low_mem_domain part, rfl, trivial⟩
  | repetition rep =>
    obtain ⟨positive, within⟩ := Bool.and_eq_true_iff.mp suits
    exact ⟨rep, within, (divides_eq_ok (of_decide_eq_true positive)).mpr (Int.dvd_refl rep), trivial⟩
  | shifted shift rep =>
    -- Validity asks for the first value after the shift, not for the shift itself.
    obtain ⟨positive, within⟩ := Bool.and_eq_true_iff.mp suits
    have positive : 0 < rep := of_decide_eq_true positive
    refine ⟨shift + rep, within, (divides_eq_ok positive).mpr ?_, ?_⟩
    · exact ⟨1, by omega⟩
    · exact Int.le_add_of_nonneg_right (Int.le_of_lt positive)

theorem exists_covers (suits : field.valid part = true) (written : field.IsWritten) :
    ∃ values, field.Covers part values := by
  obtain ⟨values, known, within⟩ := values_spec suits
  obtain ⟨n, inside, reached⟩ := exists_reached suits written
  have member := (mem_values suits known inside).mpr reached
  exact ⟨values, known, List.ne_nil_of_mem member, within, fun _ => mem_values suits known⟩

end Fields

end Field

namespace Rule

/-- The rule is what a mapping of loose values, null or an expression of five columns is read as. -/
def IsReadLoosely (rule : Rule) : Prop :=
  (∃ value path, value.IsLoose ∧ ofValue value path = .ok rule) ∨
    ∃ value, Cron.ruleOfValue value = .ok rule

/-- The candidates of the rule for a part: some of the domain in order, those that its fields
generate, whatever the order of the fields and however often one is repeated. -/
structure Unites (rule : Rule) (part : Part) (list : List Int) : Prop where
  known : rule.candidates part = .ok list
  some : list ≠ []
  increasing : list.Pairwise (· < ·)
  within : ∀ n ∈ list, part.domain.contains n = true
  union : ∀ n, n ∈ list ↔
    ∃ field ∈ rule.get part, ∃ values, field.values part = .ok values ∧ n ∈ values
  unordered : ∀ other : Rule, (∀ field, field ∈ other.get part ↔ field ∈ rule.get part) →
    other.candidates part = .ok list

section Written

variable {rule : Rule} {part : Part} {token : List Char} {fields : List Field} {n : Int}
  {values : List Int}

theorem not_field_of_specifier {piece : List Char} {item : Value}
    (handed : Cron.specifier piece = .ok item) (field : Field) : item ≠ .field field := by
  unfold Cron.specifier at handed
  split at handed
  next =>
    split at handed <;> cases handed
    exact nofun
  next => split at handed <;> cases handed <;> exact nofun

theorem not_field_of_specifiers {pieces : List (List Char)} {items : List Value}
    (given : Cron.specifiers pieces = .ok items) :
    ∀ item ∈ items, ∀ field, item ≠ .field field := by
  intro item member field
  obtain ⟨each, known⟩ := Cron.exists_specifiersOf given
  obtain same | ⟨numbers, -, -, whole⟩ := Cron.specifiers_cases known
  · cases given.symm.trans same
    obtain ⟨piece, -, handed⟩ := mem_of_forall₂ (Cron.specifiersOf_eq_ok.mp known) member
    exact not_field_of_specifier handed field
  · cases given.symm.trans whole
    cases List.mem_singleton.mp member
    exact nofun

theorem isWritten_of_columnReads (read : Cron.ColumnReads part token fields) :
    fields ≠ [] ∧ ∀ field ∈ fields, field.IsWritten := by
  obtain ⟨values, given, some, each⟩ := read
  refine ⟨fun none => some (List.forall₂_nil_right_iff.mp (none ▸ each)), fun field member => ?_⟩
  obtain ⟨item, listed, known, -⟩ := mem_of_forall₂ each member
  refine isWritten_of_item ?_ known
  simp only [Cron.column] at given
  split at given
  next => cases given
  next =>
    split at given
    next => cases given
    next => exact not_field_of_specifiers given item listed

theorem IsReadLoosely.isWritten (read : rule.IsReadLoosely) (part : Part) :
    rule.get part ≠ [] ∧ ∀ field ∈ rule.get part, field.IsWritten := by
  obtain ⟨value, path, loose, read⟩ | ⟨value, read⟩ := read
  · exact isWritten_of_ofValue loose read part
  · cases value with
    | text expression =>
      obtain ⟨columns, default⟩ := Cron.rule_eq_ok.mp (show Cron.rule expression = .ok rule from read)
      by_cases listed : part ∈ Cron.columnParts
      · obtain ⟨token, -, read⟩ := mem_of_forall₂ columns.flip listed
        exact isWritten_of_columnReads read
      · exact default part listed ▸ isWritten_midnight part
    | _ => cases read

theorem IsReadLoosely.isRead (read : rule.IsReadLoosely) : rule.IsRead := by
  obtain ⟨value, path, -, read⟩ | read := read
  · exact .inl ⟨value, path, read⟩
  · exact .inr read

theorem isReadLoosely_of_cron {expression : String} (read : Cron.rule expression = .ok rule) :
    rule.IsReadLoosely :=
  .inr ⟨.text expression, read⟩

theorem mem_generated (known : generated part fields = .ok values) :
    n ∈ values ↔ ∃ field ∈ fields, ∃ own, field.values part = .ok own ∧ n ∈ own := by
  induction fields generalizing values with
  | nil =>
    cases known
    simp
  | cons field rest ih =>
    simp only [generated] at known
    split at known
    next => cases known
    next first firstKnown =>
      obtain ⟨others, othersKnown, rfl⟩ := mapped_eq_ok.mp known
      simp [firstKnown, ih othersKnown]

theorem candidates_congr {other : Rule} (suit : ∀ field ∈ rule.get part, field.valid part = true)
    (same : ∀ field, field ∈ other.get part ↔ field ∈ rule.get part) :
    other.candidates part = rule.candidates part := by
  obtain ⟨values, known, -⟩ := generated_spec suit
  obtain ⟨others, othersKnown, -⟩ :=
    generated_spec fun field member => suit field ((same field).mp member)
  rw [candidates, candidates, known, othersKnown]
  refine congrArg Except.ok (foldr_insertIncreasing_congr fun n => ?_)
  simp only [mem_generated known, mem_generated othersKnown, same]

theorem exists_unites (formed : rule.IsFormed)
    (written : rule.get part ≠ [] ∧ ∀ field ∈ rule.get part, field.IsWritten) :
    ∃ list, rule.Unites part list := by
  obtain ⟨values, known, within⟩ := generated_spec (formed part)
  have listed : rule.candidates part = .ok (values.foldr insertIncreasing []) := by
    rw [candidates, known]
    rfl
  obtain ⟨field, member⟩ := List.exists_mem_of_ne_nil _ written.1
  obtain ⟨own, covers⟩ := Field.exists_covers (formed part field member) (written.2 field member)
  obtain ⟨n, inside⟩ := List.exists_mem_of_ne_nil own covers.some
  have held : n ∈ values := (mem_generated known).mpr ⟨field, member, own, covers.known, inside⟩
  exact ⟨_, {
    known := listed
    some := List.ne_nil_of_mem (mem_foldr_insertIncreasing.mpr held)
    increasing := pairwise_foldr_insertIncreasing
    within := fun m made => within m (mem_foldr_insertIncreasing.mp made)
    union := fun m => mem_foldr_insertIncreasing.trans (mem_generated known)
    unordered := fun other same => (candidates_congr (formed part) same).trans listed }⟩

end Written

/-- A field that is read from a loose value and suits a part generates some values of its domain,
those that it matches and that are neither the end of a range nor before a shift. The candidates of
a rule that is read from loose values are the union of these over its fields, in order. -/
theorem generates_what_matches :
    (∀ (part : Part) (item : Value) (field : Field), (∀ own, item ≠ .field own) →
      Field.ofValue item = .ok field → field.valid part = true →
        (∃ values, field.Covers part values) ∧
        ∃ n, part.domain.contains n = true ∧ field.matchesValue n = .ok true) ∧
    ∀ rule : Rule, rule.IsReadLoosely → ∀ part, (∃ list, rule.Unites part list) ∧
      ∀ field ∈ rule.get part, ∃ values, field.Covers part values := by
  refine ⟨fun part item field loose read suits => ?_, fun rule read part => ?_⟩
  · have written := isWritten_of_item loose read
    obtain ⟨n, within, matched, -⟩ := Field.exists_reached suits written
    exact ⟨Field.exists_covers suits written, n, within, matched⟩
  · have formed := read.isRead.isFormed
    have written := read.isWritten part
    exact ⟨exists_unites formed written, fun field member =>
      Field.exists_covers (formed part field member) (written.2 field member)⟩

/-- A shift below the domain, and a number that is told twice. -/
theorem generates_what_matches_shifted :
    let value : Value := .mapping [(.text "minute", .list [.int 5, .list [.int 10, .int 5]])]
    let rule : Rule := { midnight with minute := [.exact 5, .alternation [10, 5]] }
    (∃ values, (Field.shifted (-2) 4).Covers .hour values) ∧ Rule.ofValue value "rule" = .ok rule ∧
      ∃ list, rule.Unites .minute list := by
  intro value rule
  have read : Rule.ofValue value "rule" = .ok rule := rfl
  have loose : value.IsLoose := by simp [value, Value.IsLoose, Rule.itemsOf]
  exact ⟨(generates_what_matches.1 .hour (.text "-2/4") _ (fun _ same => by cases same) rfl
    (by decide)).1, read,
    (generates_what_matches.2 rule (.inl ⟨value, "rule", loose, read⟩) .minute).1⟩

end Rule

end Timetable
