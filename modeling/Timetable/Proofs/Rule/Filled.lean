import Timetable.Proofs.Attempts
import Timetable.Proofs.Rule.Formed

/-! What a rule is read as, part by part.

A mapping gives a rule exactly if its keys name parts, no part twice, and each part that is named
gives its fields; the rule then has these, and the default ones elsewhere.
-/

set_option autoImplicit false

namespace Timetable

namespace Rule

variable {part : Part} {path : String} {item : Value} {field : Field} {fields : List Field}
  {given : List (Part × Value)} {rule filled : Rule} {index : Nat} {items : List Value}

def Reads (part : Part) (item : Value) (field : Field) : Prop :=
  Field.ofValue item = .ok field ∧ field.valid part = true

theorem fieldFor_eq_ok : fieldFor part path item = .ok field ↔ Reads part item field := by
  simp only [fieldFor, Reads]
  cases Field.ofValue item with
  | error error => simp
  | ok read =>
    simp only [Except.ok.injEq]
    by_cases suits : read.valid part = true
    · rw [if_pos suits, Except.ok.injEq]
      exact ⟨fun same => ⟨same, same ▸ suits⟩, And.left⟩
    · rw [if_neg suits]
      constructor
      · intro known
        cases known
      · rintro ⟨same, valid⟩
        exact absurd (same ▸ valid) suits

theorem fieldsFrom_cons : fieldsFrom part path index (item :: items) = .ok fields ↔
    ∃ field rest, fieldFor part (path ++ "." ++ part.name ++ "[" ++ Text.ofNat index ++ "]") item =
      .ok field ∧ fieldsFrom part path (index + 1) items = .ok rest ∧ fields = field :: rest := by
  simp only [fieldsFrom]
  cases fieldFor part (path ++ "." ++ part.name ++ "[" ++ Text.ofNat index ++ "]") item with
  | error error => simp
  | ok field => simp [mapped_eq_ok]

theorem fieldsFrom_eq_ok : fieldsFrom part path index items = .ok fields ↔
    List.Forall₂ (Reads part) items fields := by
  induction items generalizing index fields with
  | nil =>
    rw [List.forall₂_nil_left_iff, fieldsFrom, Except.ok.injEq]
    exact eq_comm
  | cons item items ih =>
    rw [fieldsFrom_cons, List.forall₂_cons_left_iff]
    constructor
    · rintro ⟨field, rest, first, others, rfl⟩
      exact ⟨field, rest, fieldFor_eq_ok.mp first, ih.mp others, rfl⟩
    · rintro ⟨field, rest, first, others, rfl⟩
      exact ⟨field, rest, fieldFor_eq_ok.mpr first, ih.mpr others, rfl⟩

theorem fieldsOf_default (none : given.lookup part = .none) :
    fieldsOf path given part = .ok (midnight.get part) := by
  rw [fieldsOf, none]

theorem fieldsOf_eq_ok {value : Value} (named : given.lookup part = some value) :
    fieldsOf path given part = .ok fields ↔
      itemsOf value ≠ [] ∧ List.Forall₂ (Reads part) (itemsOf value) fields := by
  simp only [fieldsOf, named]
  cases itemsOf value with
  | nil => simp
  | cons item items => exact ⟨fun read => ⟨List.cons_ne_nil item items, fieldsFrom_eq_ok.mp read⟩,
      fun read => fieldsFrom_eq_ok.mpr read.2⟩

/-- Filling in the listed parts gives each of them its fields and leaves the others alone. -/
theorem fill_eq_ok {parts : List Part} : fill path given rule parts = .ok filled ↔
    (∀ part ∈ parts, fieldsOf path given part = .ok (filled.get part)) ∧
      ∀ part, part ∉ parts → filled.get part = rule.get part := by
  induction parts generalizing rule with
  | nil =>
    simp only [fill, Except.ok.injEq, List.not_mem_nil, false_imp_iff, implies_true, true_and,
      not_false_eq_true, true_imp_iff]
    exact ⟨fun same part => same ▸ rfl, fun same => (ext_get same).symm⟩
  | cons part rest ih =>
    simp only [fill]
    cases known : fieldsOf path given part with
    | error error =>
      constructor
      · intro filled
        cases filled
      · rintro ⟨each, -⟩
        rw [each part List.mem_cons_self] at known
        cases known
    | ok fields =>
      rw [ih]
      constructor
      · rintro ⟨each, others⟩
        refine ⟨List.forall_mem_cons.mpr ⟨?_, each⟩, fun other outside => ?_⟩
        -- A part that is listed again is filled in anew, with the same fields.
        · by_cases again : part ∈ rest
          · exact each part again
          · rw [others part again, get_set, if_pos rfl, known]
        · rw [List.mem_cons, not_or] at outside
          rw [others other outside.2, get_set, if_neg outside.1]
      · rintro ⟨each, others⟩
        obtain ⟨first, each⟩ := List.forall_mem_cons.mp each
        refine ⟨each, fun other outside => ?_⟩
        rw [get_set]
        split
        next same =>
          rw [same, ← Except.ok.injEq, ← first, known]
        next different =>
          refine others other fun member => ?_
          exact (List.mem_cons.mp member).elim different outside

theorem ofEntries_eq_ok {entries : List (Value × Value)}
    (named : namedParts path [] entries = .ok given) :
    ofEntries path entries = .ok rule ↔
      ∀ part, fieldsOf path given part = .ok (rule.get part) := by
  simp only [ofEntries, named, fill_eq_ok]
  exact ⟨fun read part => read.1 part (Part.mem_all part),
    fun each => ⟨fun part _ => each part, fun part outside => absurd (Part.mem_all part) outside⟩⟩

theorem ofKey_name (part : Part) (path : String) :
    Part.ofKey (.text part.name) path = .ok part := by
  cases part <;> rfl

theorem namedParts_names {seen : List Part} (distinct : (given.map Prod.fst).Nodup)
    (fresh : ∀ entry ∈ given, entry.1 ∉ seen) :
    namedParts path seen (given.map fun (part, value) => (.text part.name, value)) = .ok given := by
  induction given generalizing seen with
  | nil => rfl
  | cons entry rest ih =>
    obtain ⟨part, value⟩ := entry
    obtain ⟨first, others⟩ := List.forall_mem_cons.mp fresh
    rw [List.map_cons, List.nodup_cons] at distinct
    have unseen : ¬seen.contains part = true := fun known => first (List.contains_iff_mem.mp known)
    have later : ∀ entry ∈ rest, entry.1 ∉ part :: seen := by
      intro entry member
      rw [List.mem_cons, not_or]
      exact ⟨fun same => distinct.1 (List.mem_map.mpr ⟨entry, member, same⟩), others entry member⟩
    simp only [List.map_cons, namedParts, ofKey_name, if_neg unseen, ih distinct.2 later]
    rfl

theorem lookup_of_mem {value : Value} (distinct : (given.map Prod.fst).Nodup)
    (member : (part, value) ∈ given) : given.lookup part = some value := by
  induction given with
  | nil => cases member
  | cons entry rest ih =>
    obtain ⟨other, value'⟩ := entry
    rw [List.map_cons, List.nodup_cons] at distinct
    cases List.mem_cons.mp member with
    | inl same =>
      cases same
      exact List.lookup_cons_self
    | inr later =>
      have different : (part == other) = false :=
        beq_eq_false_iff_ne.mpr fun same => distinct.1 (List.mem_map.mpr ⟨_, later, same⟩)
      rw [List.lookup_cons, different]
      exact ih distinct.2 later

end Rule

end Timetable
