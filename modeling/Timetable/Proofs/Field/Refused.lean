import Timetable.Proofs.Field.Grammar

/-! What comes in place of a report on a field.

A report shows a value that it refuses, or an integer in it. It is told in the words of the library
unless an integer of the value has too many digits to be written, or the value is a text that holds
a number with too many digits to be read.
-/

set_option autoImplicit false

namespace Timetable

namespace Value

variable {value : Value} {items : List Value} {entries : List (Value × Value)} {key : String}

theorem areWritable_iff : areWritable items = true ↔ ∀ item ∈ items, item.isWritable = true := by
  induction items with
  | nil => simp [areWritable]
  | cons item rest ih => rw [areWritable, Bool.and_eq_true, ih, List.forall_mem_cons]

theorem entriesWritable_iff : entriesWritable entries = true ↔
    ∀ entry ∈ entries, entry.1.isWritable = true ∧ entry.2.isWritable = true := by
  induction entries with
  | nil => simp [entriesWritable]
  | cons entry rest ih =>
    rw [entriesWritable, Bool.and_eq_true, Bool.and_eq_true, ih, List.forall_mem_cons]

theorem isWritable_of_entry? (writable : (Value.mapping entries).isWritable = true)
    (found : entry? entries key = some value) : value.isWritable = true := by
  obtain ⟨entry, known, rfl⟩ := Option.map_eq_some_iff.mp found
  exact (entriesWritable_iff.mp writable entry (List.mem_of_find?_eq_some known)).2

theorem breach?_eq_none (writable : value.isWritable = true) : value.breach? = none :=
  if_pos writable

theorem breach?_cases (value : Value) :
    value.breach? = none ∨ value.breach? = some .unwritable ∧ value.isWritable = false := by
  cases known : value.isWritable with
  | true => exact .inl (breach?_eq_none known)
  | false => exact .inr ⟨by rw [breach?, known]; rfl, rfl⟩

end Value

namespace Field

variable {value : Value} {items : List Value} {entries : List (Value × Value)} {field : Field}
  {error : FieldError} {numbers : List Int} {n : Int}

theorem mem_of_integers (read : integers items = .ok numbers) (member : n ∈ numbers) :
    .int n ∈ items := by
  induction items generalizing numbers with
  | nil =>
    cases read
    cases member
  | cons item rest ih =>
    cases item with
    | int m =>
      cases later : integers rest with
      | error error =>
        rw [integers, later] at read
        cases read
      | ok others =>
        rw [integers, later] at read
        cases read
        cases List.mem_cons.mp member with
        | inl same => exact same ▸ List.mem_cons_self
        | inr member => exact List.mem_cons_of_mem _ (ih later member)
    | _ => cases read

theorem mem_of_memberNotInteger (refused : integers items = .error error) :
    ∃ member ∈ items, error = .memberNotInteger member := by
  induction items with
  | nil => cases refused
  | cons item rest ih =>
    cases item with
    | int m =>
      cases later : integers rest with
      | error other =>
        rw [integers, later] at refused
        cases refused
        obtain ⟨member, known, rfl⟩ := ih later
        exact ⟨member, List.mem_cons_of_mem _ known, rfl⟩
      | ok others =>
        rw [integers, later] at refused
        cases refused
    | _ =>
      cases refused
      exact ⟨_, List.mem_cons_self, rfl⟩

theorem mem_withoutRepeats {seen : List Int} :
    n ∈ withoutRepeats seen numbers ↔ n ∈ numbers ∧ n ∉ seen := by
  induction numbers generalizing seen with
  | nil => simp [withoutRepeats]
  | cons m rest ih =>
    simp only [withoutRepeats, List.contains_iff_mem]
    split
    next known =>
      rw [ih, List.mem_cons]
      refine and_congr_left fun fresh => ⟨.inr, fun member => ?_⟩
      exact member.resolve_left fun same => fresh (same ▸ known)
    next fresh =>
      rw [List.mem_cons, ih, List.mem_cons, List.mem_cons, not_or]
      constructor
      · rintro (rfl | ⟨member, -, unseen⟩)
        · exact ⟨.inl rfl, fresh⟩
        · exact ⟨.inr member, unseen⟩
      · rintro ⟨same | member, unseen⟩
        · exact .inl same
        · by_cases same : n = m
          · exact .inl same
          · exact .inr ⟨member, same, unseen⟩

theorem alternationOf_cases (known : collection? value = some items) :
    alternationOf value = .error .emptyAlternation ∨
      (∃ member ∈ items, alternationOf value = .error (.memberNotInteger member)) ∨
      ∃ numbers, integers items = .ok numbers ∧
        alternationOf value = .ok (.alternation (withoutRepeats [] numbers)) := by
  cases items with
  | nil => exact .inl (by rw [alternationOf, known])
  | cons item rest =>
    simp only [alternationOf, known]
    cases read : integers (item :: rest) with
    | ok numbers => exact .inr (.inr ⟨numbers, rfl, rfl⟩)
    | error error =>
      obtain ⟨member, known, rfl⟩ := mem_of_memberNotInteger read
      exact .inr (.inl ⟨member, known, rfl⟩)

theorem rangeOf_cases (entries : List (Value × Value)) :
    rangeOf (.mapping entries) = .error (.rangeKeys entries) ∨
      rangeOf (.mapping entries) = .error (.rangeBoundNotInteger entries) ∨
      ∃ start finish, Value.entry? entries "from" = some (.int start) ∧
        Value.entry? entries "to" = some (.int finish) ∧
          rangeOf (.mapping entries) = orderedRange start finish := by
  simp only [rangeOf]
  split
  next start finish _ first last =>
    split
    next => exact .inr (.inr ⟨_, _, first, last, rfl⟩)
    next => exact .inr (.inl rfl)
  next => exact .inl rfl

theorem orderedRange_cases (start finish : Int) :
    orderedRange start finish = .error (.rangeOrder start finish) ∨
      orderedRange start finish = .ok (.range start finish) := by
  rw [orderedRange]
  split
  · exact .inl rfl
  · exact .inr rfl

theorem breach?_cases (read : ∀ digits, error ≠ .tooLong digits) : error.breach? = none ∨
    error.breach? = some .unwritable ∧ ∃ item ∈ error.shown, item.isWritable = false := by
  have shown : error.breach? = error.shown.findSome? Value.breach? := by
    cases error with
    | tooLong digits => exact absurd rfl (read digits)
    | _ => rfl
  rw [shown]
  cases found : error.shown.findSome? Value.breach? with
  | none => exact .inl rfl
  | some failure =>
    obtain ⟨item, member, known⟩ := List.exists_of_findSome?_eq_some found
    obtain none | ⟨unwritable, long⟩ := item.breach?_cases
    · cases none.symm.trans known
    · cases unwritable.symm.trans known
      exact .inr ⟨rfl, item, member, long⟩

def IsAbout (value : Value) (error : FieldError) : Prop :=
  (∀ digits, error ≠ .tooLong digits) ∧
    ∀ item ∈ error.shown, value.isWritable = true → item.isWritable = true

theorem isAbout_of_alternationOf (known : collection? value = some items)
    (refused : alternationOf value = .error error) : IsAbout value error := by
  have writable : value.isWritable = true → Value.areWritable items = true := by
    cases value <;> cases known <;> exact id
  obtain same | ⟨member, inside, same⟩ | ⟨_, _, same⟩ := alternationOf_cases known
  · cases same.symm.trans refused
    exact ⟨fun _ => nofun, fun _ member => absurd member List.not_mem_nil⟩
  · cases same.symm.trans refused
    refine ⟨fun _ => nofun, fun item shown each => ?_⟩
    cases List.mem_singleton.mp shown
    exact Value.areWritable_iff.mp (writable each) member inside
  · cases same.symm.trans refused

theorem isAbout_of_rangeOf (refused : rangeOf (.mapping entries) = .error error) :
    IsAbout (.mapping entries) error := by
  obtain same | same | ⟨start, finish, first, last, same⟩ := rangeOf_cases entries
  · cases same.symm.trans refused
    exact ⟨fun _ => nofun, fun item shown each => List.mem_singleton.mp shown ▸ each⟩
  · cases same.symm.trans refused
    exact ⟨fun _ => nofun, fun item shown each => List.mem_singleton.mp shown ▸ each⟩
  · obtain wrong | ordered := orderedRange_cases start finish
    · cases (same.trans wrong).symm.trans refused
      refine ⟨fun _ => nofun, fun item shown each => ?_⟩
      obtain rfl | rfl : item = .int start ∨ item = .int finish := by
        simpa [FieldError.shown] using shown
      · exact Value.isWritable_of_entry? each first
      · exact Value.isWritable_of_entry? each last
    · cases (same.trans ordered).symm.trans refused

theorem isAbout_of_ofValue (refused : ofValue value = .error error) (plain : ∀ s, value ≠ .text s) :
    IsAbout value error := by
  cases value with
  | text s => exact absurd rfl (plain s)
  | field | int => cases refused
  | mapping entries => exact isAbout_of_rangeOf refused
  | list | tuple | set | frozenSet => exact isAbout_of_alternationOf rfl refused
  | null | bool | float | bytes | rule =>
    cases refused
    exact ⟨fun _ => nofun, fun item shown each => List.mem_singleton.mp shown ▸ each⟩

/-- What comes in place of a report is told by the value that is refused. -/
theorem breach?_of_ofValue (refused : ofValue value = .error error) : error.breach? = none ∨
    error.breach? = some .unwritable ∧ value.isWritable = false ∨
      ∃ s digits, value = .text s ∧ error.breach? = some (.tooManyDigits digits) ∧
        Overlong (Text.strip s.toList) digits := by
  by_cases plain : ∀ s, value ≠ .text s
  · obtain ⟨short, about⟩ := isAbout_of_ofValue refused plain
    refine (breach?_cases short).imp_right fun known => .inl ⟨known.1, ?_⟩
    obtain ⟨item, member, long⟩ := known.2
    rw [← Bool.not_eq_true]
    intro writable
    rw [about item member writable] at long
    cases long
  · obtain ⟨s, rfl⟩ := not_forall_not.mp plain
    refine (breach?_of_ofText refused).imp_right fun known => .inr ?_
    obtain ⟨digits, told, overlong⟩ := known
    exact ⟨s, digits, rfl, told, overlong⟩

theorem isWritable_of_alternationOf (known : collection? value = some items)
    (writable : Value.areWritable items = true) (read : alternationOf value = .ok field) :
    field.isWritable = true := by
  obtain same | ⟨member, -, same⟩ | ⟨numbers, ints, same⟩ := alternationOf_cases known
  · cases same.symm.trans read
  · cases same.symm.trans read
  · cases same.symm.trans read
    refine List.all_eq_true.mpr fun n member => ?_
    exact Value.areWritable_iff.mp writable _ (mem_of_integers ints (mem_withoutRepeats.mp member).1)

/-- Only integers of the value are in the field that it is read as. -/
theorem isWritable_of_ofValue (read : ofValue value = .ok field)
    (writable : value.isWritable = true) : field.isWritable = true := by
  cases value with
  | field | int =>
    cases read
    exact writable
  | list | tuple | set | frozenSet => exact isWritable_of_alternationOf rfl writable read
  | text s => exact isWritable_of_ofText read
  | mapping entries =>
    obtain same | same | ⟨start, finish, first, last, same⟩ := rangeOf_cases entries
    · cases same.symm.trans read
    · cases same.symm.trans read
    · obtain wrong | ordered := orderedRange_cases start finish
      · cases (same.trans wrong).symm.trans read
      · cases (same.trans ordered).symm.trans read
        exact Bool.and_eq_true_iff.mpr ⟨Value.isWritable_of_entry? writable first,
          Value.isWritable_of_entry? writable last⟩
  | null | bool | float | bytes | rule => cases read

end Field

end Timetable
