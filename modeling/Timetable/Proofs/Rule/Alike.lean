import Mathlib.Data.List.Sort
import Timetable.Proofs.Rule.Formed

/-! Rules that mean the same.

What a rule asks for depends on the values that the fields of a part match or generate, not on how
they are told: an alternation says what its members say one by one. Rules that agree on these
values match the same dates and have the same runs.
-/

set_option autoImplicit false

namespace Timetable

def Field.atoms : Field → List Field
  | .alternation members => members.map .exact
  | field => [field]

namespace Rule

section Fields

variable {part : Part} {fields rest : List Field} {members values others : List Int} {value : Int}

theorem anyMatches_exacts (value : Int) (members : List Int) (rest : List Field) :
    anyMatches value (members.map .exact ++ rest) =
      if members.contains value then .ok true else anyMatches value rest := by
  induction members with
  | nil => rfl
  | cons n others ih =>
    rw [List.map_cons, List.cons_append, anyMatches, Field.matchesValue, List.contains_cons]
    by_cases same : value = n
    · simp [same]
    · simp [same, ih]

theorem anyMatches_atoms (value : Int) (fields : List Field) :
    anyMatches value (fields.flatMap Field.atoms) = anyMatches value fields := by
  induction fields with
  | nil => rfl
  | cons field rest ih =>
    rw [List.flatMap_cons]
    cases field with
    | alternation members =>
      rw [Field.atoms, anyMatches_exacts, ih, anyMatches, Field.matchesValue]
      cases members.contains value <;> rfl
    | exact | range | star | repetition | shifted =>
      simp only [Field.atoms, List.singleton_append, anyMatches, ih]

theorem generated_exacts (part : Part) (members : List Int) (rest : List Field) :
    generated part (members.map .exact ++ rest) = (generated part rest).map (members ++ ·) := by
  induction members with
  | nil =>
    rw [List.map_nil, List.nil_append]
    cases generated part rest <;> rfl
  | cons n others ih =>
    rw [List.map_cons, List.cons_append, generated, Field.values]
    simp only [ih]
    cases generated part rest <;> rfl

theorem generated_atoms (part : Part) (fields : List Field) :
    generated part (fields.flatMap Field.atoms) = generated part fields := by
  induction fields with
  | nil => rfl
  | cons field rest ih =>
    rw [List.flatMap_cons]
    cases field with
    | alternation members => rw [Field.atoms, generated_exacts, ih, generated, Field.values]
    | exact | range | star | repetition | shifted =>
      simp only [Field.atoms, List.singleton_append, generated, ih]

theorem foldr_insertIncreasing_congr (same : ∀ n, n ∈ values ↔ n ∈ others) :
    values.foldr insertIncreasing [] = others.foldr insertIncreasing [] := by
  refine pairwise_foldr_insertIncreasing.eq_of_mem_iff pairwise_foldr_insertIncreasing ?_
  intro n
  rw [mem_foldr_insertIncreasing, mem_foldr_insertIncreasing, same]

end Fields

structure Alike (rule other : Rule) : Prop where
  matched : ∀ part ∈ Part.ofDate, ∀ value,
    anyMatches value (rule.get part) = anyMatches value (other.get part)
  generated : ∀ part ∈ Part.ofTime, rule.candidates part = other.candidates part

section Runs

variable {rule other : Rule}

theorem matchesDate_congr {date : Date}
    (same : ∀ part ∈ Part.ofDate, anyMatches ((date.part? part).getD 0) (rule.get part) =
      anyMatches ((date.part? part).getD 0) (other.get part)) :
    rule.matchesDate date = other.matchesDate date := by
  have each : ∀ parts ⊆ Part.ofDate, rule.matchesParts date parts = other.matchesParts date parts := by
    intro parts within
    induction parts with
    | nil => rfl
    | cons part rest ih =>
      obtain ⟨known, others⟩ := List.cons_subset.mp within
      rw [matchesParts, matchesParts, same part known, ih others]
  exact each Part.ofDate (List.Subset.refl _)

theorem Alike.matchesDate (alike : rule.Alike other) (date : Date) :
    rule.matchesDate date = other.matchesDate date :=
  matchesDate_congr fun part known => alike.matched part known _

theorem runsOn_rule (search : Search) (date : Date) (limit : Nat) (clocks : List Clock) :
    Search.runsOn { search with rule := other } date limit clocks =
      search.runsOn date limit clocks := by
  induction clocks generalizing limit with
  | nil => rfl
  | cons clock rest ih =>
    have same : Search.runAt { search with rule := other } date clock = search.runAt date clock := rfl
    simp only [Search.runsOn, same, ih]

theorem runsFrom_rule (search : Search) (same : ∀ date, other.matchesDate date =
    search.rule.matchesDate date) (limit passed days : Nat) :
    Search.runsFrom { search with rule := other } limit passed days =
      search.runsFrom limit passed days := by
  induction days generalizing limit passed with
  | zero => rfl
  | succ days ih => simp only [Search.runsFrom, same, runsOn_rule, ih]

theorem Alike.runs (alike : rule.Alike other) (time : DateTime) (horizon limit : Nat) :
    rule.runs time horizon limit = other.runs time horizon limit := by
  -- Of the rule a search reads nothing but which dates match.
  have searched (search : Search) (own : search.rule = rule) :
      Search.runsFrom { search with rule := other } limit 0 horizon =
        search.runsFrom limit 0 horizon :=
    runsFrom_rule search (fun date => own ▸ (alike.matchesDate date).symm) limit 0 horizon
  simp only [Rule.runs, Search.after?, alike.generated .hour (by decide),
    alike.generated .minute (by decide), alike.generated .second (by decide), bind, Except.bind,
    pure, Except.pure]
  cases other.candidates .hour with
  | error fault => rfl
  | ok hours =>
    cases other.candidates .minute with
    | error fault => rfl
    | ok minutes =>
      cases other.candidates .second with
      | error fault => rfl
      | ok seconds =>
        cases empty : hours.isEmpty || minutes.isEmpty || seconds.isEmpty with
        | true =>
          simp only [empty]
          rfl
        | false =>
          simp only [empty]
          cases time.instant with
          | error fault => rfl
          | ok instant => exact (searched _ rfl).symm

end Runs

end Rule

end Timetable
