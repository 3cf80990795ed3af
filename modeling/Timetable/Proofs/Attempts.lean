import Mathlib.Data.List.Forall2

/-! Attempts that may fail, and lists that are related item by item. -/

set_option autoImplicit false

namespace Timetable

theorem mapped_eq_ok {ε α β : Type} {attempt : Except ε α} {f : α → β} {b : β} :
    attempt.map f = .ok b ↔ ∃ a, attempt = .ok a ∧ b = f a := by
  cases attempt <;> simp [Except.map, eq_comm]

theorem mapped_eq_error {ε α β : Type} {attempt : Except ε α} {f : α → β} {error : ε} :
    attempt.map f = .error error ↔ attempt = .error error := by
  cases attempt <;> simp [Except.map]

theorem bound_eq_ok {ε α β : Type} {attempt : Except ε α} {next : α → Except ε β} {b : β} :
    (attempt >>= next) = .ok b ↔ ∃ a, attempt = .ok a ∧ next a = .ok b := by
  cases attempt <;> simp [bind, Except.bind]

theorem forall₂_through {α β γ : Type} {R : α → β → Prop} {S : β → γ → Prop} {as : List α}
    {cs : List γ} : List.Forall₂ (fun a c => ∃ b, R a b ∧ S b c) as cs ↔
      ∃ bs, List.Forall₂ R as bs ∧ List.Forall₂ S bs cs := by
  constructor
  · intro each
    induction each with
    | nil => exact ⟨[], .nil, .nil⟩
    | cons first _ ih =>
      obtain ⟨b, left, right⟩ := first
      obtain ⟨bs, lefts, rights⟩ := ih
      exact ⟨b :: bs, .cons left lefts, .cons right rights⟩
  · rintro ⟨bs, lefts, rights⟩
    induction lefts generalizing cs with
    | nil =>
      cases rights
      exact .nil
    | cons left _ ih =>
      cases rights with
      | cons right rights => exact .cons ⟨_, left, right⟩ (ih rights)

theorem exists_forall₂ {α β : Type} {R : α → β → Prop} {as : List α} :
    (∃ bs, List.Forall₂ R as bs) ↔ ∀ a ∈ as, ∃ b, R a b := by
  induction as with
  | nil => simp [List.forall₂_nil_left_iff]
  | cons a rest ih =>
    rw [List.forall_mem_cons, ← ih]
    constructor
    · rintro ⟨_, each⟩
      obtain ⟨b, bs, first, others, rfl⟩ := List.forall₂_cons_left_iff.mp each
      exact ⟨⟨b, first⟩, bs, others⟩
    · rintro ⟨⟨b, first⟩, bs, others⟩
      exact ⟨b :: bs, .cons first others⟩

theorem mem_of_forall₂ {α β : Type} {R : α → β → Prop} {as : List α} {bs : List β} {b : β}
    (each : List.Forall₂ R as bs) (member : b ∈ bs) : ∃ a ∈ as, R a b := by
  induction each with
  | nil => cases member
  | cons first _ ih =>
    cases List.mem_cons.mp member with
    | inl same => exact ⟨_, List.mem_cons_self, same ▸ first⟩
    | inr later =>
      obtain ⟨a, known, related⟩ := ih later
      exact ⟨a, List.mem_cons_of_mem _ known, related⟩

end Timetable
