import Mathlib.Data.Bool.AllAny
import Mathlib.Data.Nat.Digits.Defs
import Timetable.Proofs.Text.Numeral
import Timetable.Proofs.Text.Split
import Timetable.Rule.Reader

/-! The grammar of fields.

A text is read as a field exactly if it is spelled in one of four forms, blanks around it apart, and
the form says which field. The text of a field that was read is a spelling of that field, so what is
read and written once stays as it is.
-/

set_option autoImplicit false

namespace Timetable

theorem Text.marks_spec : ∀ mark ∈ ['*', '/', '-', ','], isDigit mark = false ∧
    isBlank mark = false ∧ mark.isAlpha = false :=
  List.all_iff_forall_prop.mp (by decide)

namespace Field

section Forms

variable {mark : Char} {text first last : List Char} {field : Field} {below : Bool}

abbrev IsRun (text : List Char) : Prop :=
  Text.allAre Text.isDigit text = true

theorem isRun_iff : IsRun text ↔ ∃ n, Text.Numeral text n := by
  simp only [Text.numeral_iff, exists_and_left, exists_eq', and_true]

theorem IsRun.numeral (run : IsRun text) : Text.Numeral text (Text.numberFrom 0 text) :=
  Text.numeral_iff.mpr ⟨run, rfl⟩

/-- Two runs of digits around a mark are found at its first occurrence. -/
theorem runsAround?_eq_some (noDigit : Text.isDigit mark = false) :
    runsAround? mark text = some (first, last) ↔
      text = first ++ mark :: last ∧ IsRun first ∧ IsRun last := by
  constructor
  · intro found
    have whole := List.takeWhile_append_dropWhile (p := (· ≠ mark)) (l := text)
    simp only [runsAround?] at found
    split at found
    next => cases found
    next met rest beyond =>
      have kept := List.head?_dropWhile_not (fun c => decide (c ≠ mark)) text
      rw [beyond] at kept whole
      have reached : met = mark := by simpa using kept
      split at found
      next runs =>
        cases found
        rw [← reached] at whole ⊢
        exact ⟨whole.symm, Bool.and_eq_true_iff.mp (reached ▸ runs)⟩
      next => cases found
  · rintro ⟨rfl, run, other⟩
    -- The first run holds no mark, so what is found is the mark after it.
    have before : ∀ c ∈ first, decide (c ≠ mark) = true := fun c member =>
      decide_eq_true fun same => run.numeral.free noDigit (same ▸ member)
    have dropped : (first ++ mark :: last).dropWhile (· ≠ mark) = mark :: last := by
      rw [List.dropWhile_append_of_pos before, List.dropWhile_cons_of_neg (by simp)]
    have taken : (first ++ mark :: last).takeWhile (· ≠ mark) = first := by
      rw [List.takeWhile_append_of_pos before, List.takeWhile_cons_of_neg (by simp),
        List.append_nil]
    simp only [runsAround?, dropped, taken, Bool.and_eq_true_iff.mpr ⟨run, other⟩, if_true]

theorem rangeBounds?_eq_some : rangeBounds? text = some (first, last) ↔
    text = first ++ '-' :: last ∧ IsRun first ∧ IsRun last :=
  runsAround?_eq_some (Text.marks_spec '-' (by decide)).1

theorem repetitionStep?_eq_some : repetitionStep? text = some last ↔
    text = '/' :: last ∧ IsRun last := by
  unfold repetitionStep?
  split
  next rest =>
    simp only [Option.ite_none_right_eq_some, Option.some.injEq, List.cons.injEq, true_and]
    constructor
    · rintro ⟨run, rfl⟩
      exact ⟨rfl, run⟩
    · rintro ⟨rfl, run⟩
      exact ⟨run, rfl⟩
  next other =>
    constructor
    · rintro ⟨⟩
    · rintro ⟨rfl, -⟩
      exact absurd rfl (other last)

theorem shiftAndStep?_eq_some : shiftAndStep? text = some (below, first, last) ↔
    text = (if below then ['-'] else []) ++ first ++ '/' :: last ∧ IsRun first ∧ IsRun last := by
  have noDigit := (Text.marks_spec '/' (by decide)).1
  have noSign := (Text.marks_spec '-' (by decide)).1
  unfold shiftAndStep?
  split
  next rest =>
    simp only [Option.map_eq_some_iff, Prod.mk.injEq, Prod.exists, runsAround?_eq_some noDigit]
    constructor
    · rintro ⟨first, last, ⟨rfl, run, other⟩, rfl, rfl, rfl⟩
      exact ⟨rfl, run, other⟩
    · rintro ⟨same, run, other⟩
      cases below with
      | true => exact ⟨first, last, ⟨(List.cons.inj same).2, run, other⟩, rfl, rfl, rfl⟩
      | false => exact absurd same.symm (run.numeral.append_ne_cons noSign)
  next unsigned =>
    simp only [Option.map_eq_some_iff, Prod.mk.injEq, Prod.exists, runsAround?_eq_some noDigit]
    constructor
    · rintro ⟨first, last, ⟨rfl, run, other⟩, rfl, rfl, rfl⟩
      exact ⟨rfl, run, other⟩
    · rintro ⟨same, run, other⟩
      cases below with
      | true => exact absurd same (unsigned _)
      | false => exact ⟨first, last, ⟨same, run, other⟩, rfl, rfl, rfl⟩

end Forms

/-- The spellings of fields. -/
inductive Spells : List Char → Field → Prop where
  | star : Spells ['*'] .star
  | range {first last : List Char} {start finish : Nat} (before : Text.Numeral first start)
      (after : Text.Numeral last finish) (ordered : start < finish) :
      Spells (first ++ '-' :: last) (.range start finish)
  | step {text : List Char} {rep : Nat} (written : Text.Numeral text rep) (positive : 0 < rep) :
      Spells ('/' :: text) (.repetition rep)
  | shifted {first last : List Char} {shift rep : Nat} (before : Text.Numeral first shift)
      (after : Text.Numeral last rep) (positive : 0 < rep) :
      Spells (first ++ '/' :: last) (.shifted shift rep)
  | shiftedBelow {first last : List Char} {shift rep : Nat} (before : Text.Numeral first shift)
      (after : Text.Numeral last rep) (positive : 0 < rep) :
      Spells ('-' :: first ++ '/' :: last) (.shifted (-(shift : Int)) rep)

/-- The runs of digits in a text that has the form of a range, of a step or of a shifted step. -/
inductive Runs : List Char → List (List Char) → Prop where
  | range {first last : List Char} (before : IsRun first) (after : IsRun last) :
      Runs (first ++ '-' :: last) [first, last]
  | step {last : List Char} (run : IsRun last) : Runs ('/' :: last) [last]
  | shifted {first last : List Char} (before : IsRun first) (after : IsRun last) :
      Runs (first ++ '/' :: last) [first, last]
  | shiftedBelow {first last : List Char} (before : IsRun first) (after : IsRun last) :
      Runs ('-' :: first ++ '/' :: last) [first, last]

/-- The first of its runs that is too long to be read as a number has so many digits. -/
def Overlong (text : List Char) (digits : Nat) : Prop :=
  ∃ runs run, Runs text runs ∧
    runs.find? (fun run => decide (Text.digitLimit < run.length)) = some run ∧ run.length = digits

section Forms

variable {text first last : List Char} {field : Field} {s : String} {n digits : Nat}
  {runs : List (List Char)} {error : FieldError}

theorem numberOf_eq_ok :
    numberOf text = .ok n ↔ text.length ≤ Text.digitLimit ∧ Text.numberFrom 0 text = n := by
  rw [← Text.number_eq_ok, numberOf]
  cases Text.number text <;> simp [Except.mapError]

theorem numberOf_long (long : Text.digitLimit < text.length) :
    numberOf text = .error (.tooLong text.length) := by
  rw [numberOf, Text.number_eq_error.mpr ⟨long, rfl⟩]
  rfl

theorem numberOf_short (short : text.length ≤ Text.digitLimit) :
    numberOf text = .ok (Text.numberFrom 0 text) :=
  numberOf_eq_ok.mpr ⟨short, rfl⟩

theorem numberOf_numeral (written : Text.Numeral text n) (short : text.length ≤ Text.digitLimit) :
    numberOf text = .ok n :=
  numberOf_eq_ok.mpr ⟨short, (Text.numeral_iff.mp written).2⟩

theorem ofText_range (stripped : Text.strip s.toList = first ++ '-' :: last)
    (before : IsRun first) (after : IsRun last) : ofText s = (do
      let start ← numberOf first
      let finish ← numberOf last
      orderedRange start finish) := by
  have noStar := (Text.marks_spec '*' (by decide)).1
  have known := rangeBounds?_eq_some.mpr ⟨stripped, before, after⟩
  have starless : first ++ '-' :: last ≠ ['*'] := before.numeral.append_ne_cons noStar
  simp only [ofText, known, stripped ▸ starless, Option.isSome_some, if_true, if_false, rangeOf,
    String.toList_ofList]

theorem rangeBounds?_eq_none (apart : ∀ first last, IsRun first → text ≠ first ++ '-' :: last) :
    rangeBounds? text = none := by
  cases known : rangeBounds? text with
  | none => rfl
  | some bounds =>
    obtain ⟨same, before, -⟩ := rangeBounds?_eq_some.mp known
    exact absurd same (apart _ _ before)

theorem repetitionStep?_eq_none (other : ∀ last, text ≠ '/' :: last) :
    repetitionStep? text = none := by
  cases known : repetitionStep? text with
  | none => rfl
  | some step => exact absurd (repetitionStep?_eq_some.mp known).1 (other step)

theorem ofText_step (stripped : Text.strip s.toList = '/' :: last) (run : IsRun last) :
    ofText s = (do
      let step ← numberOf last
      if step = 0 then .error (.repetitionStep (String.ofList ('/' :: last)))
      else .ok (.repetition step)) := by
  have noSlash := (Text.marks_spec '/' (by decide)).1
  have noRange : rangeBounds? ('/' :: last) = none :=
    rangeBounds?_eq_none fun first _ before => (before.numeral.append_ne_cons noSlash).symm
  have known := repetitionStep?_eq_some.mpr ⟨rfl, run⟩
  simp only [ofText, stripped, noRange, known, Option.isSome_none, Option.isSome_some, if_true,
    repetitionOf, String.toList_ofList, List.cons.injEq, Char.reduceEq, false_and, if_false,
    Bool.false_eq_true]

/-- A text in the form of a shifted step has the look of no form that is tried before it. -/
theorem ofText_signed (below : Bool)
    (stripped : Text.strip s.toList = (if below then ['-'] else []) ++ first ++ '/' :: last)
    (before : IsRun first) (after : IsRun last) : ofText s = (do
      let shift ← numberOf first
      let step ← numberOf last
      if step = 0 then .error (.shiftedStep (String.ofList (Text.strip s.toList)))
      else .ok (.shifted (if below then -(shift : Int) else shift) step)) := by
  have noStar := (Text.marks_spec '*' (by decide)).1
  have noSlash := (Text.marks_spec '/' (by decide)).1
  have noDash := (Text.marks_spec '-' (by decide)).1
  have known := shiftAndStep?_eq_some.mpr ⟨stripped, before, after⟩
  have starless : Text.strip s.toList ≠ ['*'] := by
    rw [stripped]
    cases below with
    | true => simp
    | false => exact before.numeral.append_ne_cons noStar
  have noStep : repetitionStep? (Text.strip s.toList) = none := by
    refine repetitionStep?_eq_none fun other => ?_
    rw [stripped]
    cases below with
    | true => exact fun same => by cases same
    | false => exact before.numeral.append_ne_cons noSlash
  -- Were the text a range too, its dash would be a digit of one of the two numbers.
  have noRange : rangeBounds? (Text.strip s.toList) = none := by
    refine rangeBounds?_eq_none fun left right run => ?_
    rw [stripped]
    cases below with
    | true => exact (run.numeral.append_ne_cons noDash).symm
    | false =>
      intro same
      have dash : '-' ∈ first ++ '/' :: last := same ▸ List.mem_append_right _ List.mem_cons_self
      obtain member | member | member := List.mem_append.mp dash |>.imp_right List.mem_cons.mp
      · exact before.numeral.free noDash member
      · cases member
      · exact after.numeral.free noDash member
  simp only [ofText, starless, noRange, noStep, known, Option.isSome_none, Option.isSome_some,
    if_true, shiftedOf, String.toList_ofList, if_false, Bool.false_eq_true]

theorem ofText_shifted (stripped : Text.strip s.toList = first ++ '/' :: last)
    (before : IsRun first) (after : IsRun last) : ofText s = (do
      let shift ← numberOf first
      let step ← numberOf last
      if step = 0 then .error (.shiftedStep (String.ofList (Text.strip s.toList)))
      else .ok (.shifted shift step)) :=
  ofText_signed false stripped before after

theorem ofText_shiftedBelow (stripped : Text.strip s.toList = '-' :: first ++ '/' :: last)
    (before : IsRun first) (after : IsRun last) : ofText s = (do
      let shift ← numberOf first
      let step ← numberOf last
      if step = 0 then .error (.shiftedStep (String.ofList (Text.strip s.toList)))
      else .ok (.shifted (-(shift : Int)) step)) :=
  ofText_signed true stripped before after

theorem ofText_illegal (starless : Text.strip s.toList ≠ ['*'])
    (formless : ∀ runs, ¬Runs (Text.strip s.toList) runs) :
    ofText s = .error (.illegal (.text s)) := by
  have noRange : rangeBounds? (Text.strip s.toList) = none := by
    refine Option.eq_none_iff_forall_ne_some.mpr fun bounds known => ?_
    obtain ⟨same, before, after⟩ := rangeBounds?_eq_some.mp known
    exact formless _ (by rw [same]; exact .range before after)
  have noStep : repetitionStep? (Text.strip s.toList) = none := by
    refine Option.eq_none_iff_forall_ne_some.mpr fun step known => ?_
    obtain ⟨same, run⟩ := repetitionStep?_eq_some.mp known
    exact formless _ (by rw [same]; exact .step run)
  have noShift : shiftAndStep? (Text.strip s.toList) = none := by
    refine Option.eq_none_iff_forall_ne_some.mpr fun known found => ?_
    obtain ⟨below, first, last⟩ := known
    obtain ⟨same, before, after⟩ := shiftAndStep?_eq_some.mp found
    cases below with
    | true => exact formless _ (by rw [same]; exact .shiftedBelow before after)
    | false => exact formless _ (by rw [same]; exact .shifted before after)
  simp only [ofText, starless, noRange, noStep, noShift, Option.isSome_none, Bool.false_eq_true,
    if_false]

theorem numberOf_bind_numberOf {run : List Char} {next : Nat → Nat → Except FieldError Field}
    (found : [first, last].find? (fun run => decide (Text.digitLimit < run.length)) = some run) :
    (do
      let start ← numberOf first
      let finish ← numberOf last
      next start finish) = .error (.tooLong run.length) := by
  by_cases long : Text.digitLimit < first.length
  · rw [List.find?_cons_of_pos (p := fun run : List Char => decide (Text.digitLimit < run.length))
      (decide_eq_true long)] at found
    cases found
    rw [numberOf_long long]
    rfl
  · rw [List.find?_cons_of_neg (p := fun run : List Char => decide (Text.digitLimit < run.length))
      (by simpa using long)] at found
    have known := List.find?_some found
    cases List.mem_singleton.mp (List.mem_of_find?_eq_some found)
    rw [numberOf_short (Nat.le_of_not_lt long), numberOf_long (of_decide_eq_true known)]
    rfl

/-- A number with too many digits is told of, and of two of them the first. -/
theorem ofText_overlong (overlong : Overlong (Text.strip s.toList) digits) :
    ofText s = .error (.tooLong digits) := by
  obtain ⟨runs, run, formed, found, rfl⟩ := overlong
  generalize stripped : Text.strip s.toList = text at formed
  cases formed with
  | range before after =>
    exact (ofText_range stripped before after).trans (numberOf_bind_numberOf found)
  | shifted before after =>
    exact (ofText_shifted stripped before after).trans
      (numberOf_bind_numberOf found)
  | shiftedBelow before after =>
    exact (ofText_shiftedBelow stripped before after).trans
      (numberOf_bind_numberOf found)
  | step last =>
    have known := List.find?_some found
    cases List.mem_singleton.mp (List.mem_of_find?_eq_some found)
    rw [ofText_step stripped last, numberOf_long (of_decide_eq_true known)]
    rfl

theorem Runs.short (formed : Runs text runs) (short : ∀ digits, ¬Overlong text digits) :
    ∀ run ∈ runs, run.length ≤ Text.digitLimit := by
  have none : runs.find? (fun run => decide (Text.digitLimit < run.length)) = none :=
    Option.eq_none_iff_forall_ne_some.mpr fun run found =>
      short run.length ⟨runs, run, formed, found, rfl⟩
  intro run member
  simpa using List.find?_eq_none.mp none run member

end Forms

section Spellings

variable {text : List Char} {field : Field} {s : String} {error : FieldError}

theorem ofText_of_spells (spelled : Spells (Text.strip s.toList) field)
    (short : ∀ digits, ¬Overlong (Text.strip s.toList) digits) : ofText s = .ok field := by
  have run {text : List Char} {n : Nat} (written : Text.Numeral text n) : IsRun text :=
    isRun_iff.mpr ⟨n, written⟩
  generalize stripped : Text.strip s.toList = text at spelled short
  cases spelled with
  | star =>
    simp only [ofText, stripped, if_true]
    rfl
  | @range first last start finish before after ordered =>
    obtain ⟨few, fewer⟩ := by
      simpa using (Runs.range (run before) (run after)).short short
    rw [ofText_range stripped (run before) (run after), numberOf_numeral before few,
      numberOf_numeral after fewer]
    exact if_neg (by omega)
  | @step last rep written positive =>
    have few := (Runs.step (run written)).short short _ List.mem_cons_self
    rw [ofText_step stripped (run written), numberOf_numeral written few]
    exact if_neg (Nat.ne_of_gt positive)
  | shifted before after positive =>
    obtain ⟨few, fewer⟩ := by
      simpa using (Runs.shifted (run before) (run after)).short short
    rw [ofText_shifted stripped (run before) (run after),
      numberOf_numeral before few, numberOf_numeral after fewer]
    exact if_neg (Nat.ne_of_gt positive)
  | shiftedBelow before after positive =>
    obtain ⟨few, fewer⟩ := by
      simpa using (Runs.shiftedBelow (run before) (run after)).short short
    rw [ofText_shiftedBelow stripped (run before) (run after),
      numberOf_numeral before few, numberOf_numeral after fewer]
    exact if_neg (Nat.ne_of_gt positive)

/-- A text without an overlong number that spells no field is refused in a report that can be
written. -/
theorem ofText_spelled_or_refused (short : ∀ digits, ¬Overlong (Text.strip s.toList) digits) :
    (∃ field, ofText s = .ok field ∧ Spells (Text.strip s.toList) field) ∨
      ∃ error, ofText s = .error error ∧ error.breach? = none := by
  by_cases star : Text.strip s.toList = ['*']
  · have spelled : Spells (Text.strip s.toList) .star := star ▸ .star
    exact .inl ⟨.star, ofText_of_spells spelled short, spelled⟩
  by_cases formed : ∃ runs, Runs (Text.strip s.toList) runs
  · obtain ⟨runs, formed⟩ := formed
    have few := formed.short short
    generalize stripped : Text.strip s.toList = text at formed
    cases formed with
    | @range first last before after =>
      obtain ⟨few, fewer⟩ := by simpa using few
      rw [ofText_range stripped before after, numberOf_short few, numberOf_short fewer]
      by_cases ordered : Text.numberFrom 0 first < Text.numberFrom 0 last
      · exact .inl ⟨_, if_neg (by omega), .range before.numeral after.numeral ordered⟩
      · refine .inr ⟨_, if_pos (by omega), ?_⟩
        simp [FieldError.breach?, FieldError.shown, Value.breach?, Value.isWritable,
          before.numeral.isWritable few, after.numeral.isWritable fewer]
    | @step last run =>
      rw [ofText_step stripped run, numberOf_short (few _ List.mem_cons_self)]
      by_cases zero : Text.numberFrom 0 last = 0
      · exact .inr ⟨_, if_pos zero, rfl⟩
      · exact .inl ⟨_, if_neg zero, .step run.numeral (Nat.pos_of_ne_zero zero)⟩
    | @shifted first last before after =>
      obtain ⟨few, fewer⟩ := by simpa using few
      rw [ofText_shifted stripped before after, numberOf_short few,
        numberOf_short fewer]
      by_cases zero : Text.numberFrom 0 last = 0
      · exact .inr ⟨_, if_pos zero, rfl⟩
      · exact .inl ⟨_, if_neg zero, .shifted before.numeral after.numeral
          (Nat.pos_of_ne_zero zero)⟩
    | @shiftedBelow first last before after =>
      obtain ⟨few, fewer⟩ := by simpa using few
      rw [ofText_shiftedBelow stripped before after, numberOf_short few,
        numberOf_short fewer]
      by_cases zero : Text.numberFrom 0 last = 0
      · exact .inr ⟨_, if_pos zero, rfl⟩
      · exact .inl ⟨_, if_neg zero, .shiftedBelow before.numeral after.numeral
          (Nat.pos_of_ne_zero zero)⟩
  · exact .inr ⟨_, ofText_illegal star (not_exists.mp formed), rfl⟩

theorem not_overlong_of_ofText (read : ofText s = .ok field) (digits : Nat) :
    ¬Overlong (Text.strip s.toList) digits := by
  intro overlong
  rw [ofText_overlong overlong] at read
  cases read

theorem ofText_eq_ok : ofText s = .ok field ↔ Spells (Text.strip s.toList) field ∧
    ∀ digits, ¬Overlong (Text.strip s.toList) digits := by
  constructor
  · intro read
    have short := not_overlong_of_ofText read
    obtain ⟨_, known, spelled⟩ | ⟨_, refused, -⟩ := ofText_spelled_or_refused short
    · cases read.symm.trans known
      exact ⟨spelled, short⟩
    · cases read.symm.trans refused
  · rintro ⟨spelled, short⟩
    exact ofText_of_spells spelled short

theorem breach?_of_ofText (refused : ofText s = .error error) : error.breach? = none ∨
    ∃ digits, error.breach? = some (.tooManyDigits digits) ∧
      Overlong (Text.strip s.toList) digits := by
  by_cases short : ∀ digits, ¬Overlong (Text.strip s.toList) digits
  · obtain ⟨field, read, -⟩ | ⟨other, known, shown⟩ := ofText_spelled_or_refused short
    · cases refused.symm.trans read
    · cases refused.symm.trans known
      exact .inl shown
  · obtain ⟨digits, overlong⟩ := not_forall_not.mp short
    cases refused.symm.trans (ofText_overlong overlong)
    exact .inr ⟨digits, rfl, overlong⟩

/-- The numbers of a field that was read from a text can be written. -/
theorem isWritable_of_ofText (read : ofText s = .ok field) : field.isWritable = true := by
  have run {text : List Char} {n : Nat} (written : Text.Numeral text n) : IsRun text :=
    isRun_iff.mpr ⟨n, written⟩
  obtain ⟨spelled, short⟩ := ofText_eq_ok.mp read
  generalize Text.strip s.toList = text at spelled short
  cases spelled with
  | star => rfl
  | range before after =>
    obtain ⟨few, fewer⟩ := by simpa using (Runs.range (run before) (run after)).short short
    exact Bool.and_eq_true_iff.mpr ⟨before.isWritable few, after.isWritable fewer⟩
  | step written =>
    exact written.isWritable ((Runs.step (run written)).short short _ List.mem_cons_self)
  | shifted before after =>
    obtain ⟨few, fewer⟩ := by simpa using (Runs.shifted (run before) (run after)).short short
    exact Bool.and_eq_true_iff.mpr ⟨before.isWritable few, after.isWritable fewer⟩
  | shiftedBelow before after =>
    obtain ⟨few, fewer⟩ := by simpa using (Runs.shiftedBelow (run before) (run after)).short short
    rw [Field.isWritable, Text.isWritable_neg]
    exact Bool.and_eq_true_iff.mpr ⟨before.isWritable few, after.isWritable fewer⟩

theorem isSolid_toDigits (n : Nat) : Text.IsSolid (Nat.toDigits 10 n) := fun _ member =>
  Text.isBlank_of_isDigit ((Text.numeral_toDigits n).isDigit member)

theorem toList_ofInt (n : Nat) : (Text.ofInt n).toList = Nat.toDigits 10 n :=
  Text.toList_ofNat n

theorem strip_text_range (start finish : Nat) :
    Text.strip (Field.range start finish).text.toList =
      Nat.toDigits 10 start ++ '-' :: Nat.toDigits 10 finish := by
  have written : (Field.range start finish).text.toList =
      Nat.toDigits 10 start ++ '-' :: Nat.toDigits 10 finish := by
    rw [Field.text, String.toList_append, String.toList_append, toList_ofInt, toList_ofInt,
      List.append_assoc]
    rfl
  rw [written, Text.strip_eq_self]
  exact Text.isSolid_append.mpr ⟨isSolid_toDigits start, Text.isSolid_cons.mpr
    ⟨(Text.marks_spec '-' (by decide)).2.1, isSolid_toDigits finish⟩⟩

theorem strip_text_repetition (rep : Nat) :
    Text.strip (Field.repetition rep).text.toList = '/' :: Nat.toDigits 10 rep := by
  have written : (Field.repetition rep).text.toList = '/' :: Nat.toDigits 10 rep := by
    rw [Field.text, String.toList_append, toList_ofInt]
    rfl
  rw [written, Text.strip_eq_self]
  exact Text.isSolid_cons.mpr ⟨(Text.marks_spec '/' (by decide)).2.1, isSolid_toDigits rep⟩

theorem strip_text_shifted (shift rep : Nat) :
    Text.strip (Field.shifted shift rep).text.toList =
      Nat.toDigits 10 shift ++ '/' :: Nat.toDigits 10 rep := by
  have written : (Field.shifted shift rep).text.toList =
      Nat.toDigits 10 shift ++ '/' :: Nat.toDigits 10 rep := by
    rw [Field.text, String.toList_append, String.toList_append, toList_ofInt, toList_ofInt,
      List.append_assoc]
    rfl
  rw [written, Text.strip_eq_self]
  exact Text.isSolid_append.mpr ⟨isSolid_toDigits shift, Text.isSolid_cons.mpr
    ⟨(Text.marks_spec '/' (by decide)).2.1, isSolid_toDigits rep⟩⟩

theorem strip_text_shiftedBelow (k rep : Nat) :
    Text.strip (Field.shifted (-((k + 1 : Nat) : Int)) rep).text.toList =
      '-' :: Nat.toDigits 10 (k + 1) ++ '/' :: Nat.toDigits 10 rep := by
  have written : (Field.shifted (-((k + 1 : Nat) : Int)) rep).text.toList =
      '-' :: (Nat.toDigits 10 (k + 1) ++ '/' :: Nat.toDigits 10 rep) := by
    rw [Field.text, String.toList_append, String.toList_append, toList_ofInt,
      show Text.ofInt (-((k + 1 : Nat) : Int)) = "-" ++ Text.ofNat (k + 1) from rfl,
      String.toList_append, Text.toList_ofNat, List.append_assoc, List.append_assoc]
    rfl
  rw [written, List.cons_append, Text.strip_eq_self]
  exact Text.isSolid_cons.mpr ⟨(Text.marks_spec '-' (by decide)).2.1,
    Text.isSolid_append.mpr ⟨isSolid_toDigits (k + 1), Text.isSolid_cons.mpr
      ⟨(Text.marks_spec '/' (by decide)).2.1, isSolid_toDigits rep⟩⟩⟩

theorem isRun_toDigits (n : Nat) : IsRun (Nat.toDigits 10 n) :=
  isRun_iff.mpr ⟨n, Text.numeral_toDigits n⟩

theorem numberOf_toDigits {n : Nat} (few : Text.isWritable n = true) :
    numberOf (Nat.toDigits 10 n) = .ok n :=
  numberOf_numeral (Text.numeral_toDigits n) (of_decide_eq_true few)

theorem ofText_text_range {start finish : Nat} (ordered : start < finish)
    (few : Text.isWritable start = true) (fewer : Text.isWritable finish = true) :
    ofText (Field.range start finish).text = .ok (.range start finish) := by
  rw [ofText_range (strip_text_range start finish) (isRun_toDigits start) (isRun_toDigits finish),
    numberOf_toDigits few, numberOf_toDigits fewer]
  exact if_neg (by omega)

theorem ofText_text_repetition {rep : Nat} (positive : 0 < rep)
    (few : Text.isWritable rep = true) :
    ofText (Field.repetition rep).text = .ok (.repetition rep) := by
  rw [ofText_step (strip_text_repetition rep) (isRun_toDigits rep), numberOf_toDigits few]
  exact if_neg (Nat.ne_of_gt positive)

theorem ofText_text_shifted {shift : Int} {rep : Nat} (positive : 0 < rep)
    (few : Text.isWritable shift = true) (fewer : Text.isWritable rep = true) :
    ofText (Field.shifted shift rep).text = .ok (.shifted shift rep) := by
  cases shift with
  | ofNat n =>
    rw [Int.ofNat_eq_natCast] at few ⊢
    rw [ofText_shifted (strip_text_shifted n rep) (isRun_toDigits n) (isRun_toDigits rep),
      numberOf_toDigits few, numberOf_toDigits fewer]
    exact if_neg (Nat.ne_of_gt positive)
  | negSucc k =>
    have few : Text.isWritable ((k + 1 : Nat) : Int) = true := few
    rw [show Int.negSucc k = -((k + 1 : Nat) : Int) from rfl]
    rw [ofText_shiftedBelow (strip_text_shiftedBelow k rep) (isRun_toDigits (k + 1))
      (isRun_toDigits rep), numberOf_toDigits few, numberOf_toDigits fewer]
    exact if_neg (Nat.ne_of_gt positive)

theorem ofText_text (read : ofText s = .ok field) : ofText field.text = .ok field := by
  have writable := isWritable_of_ofText read
  obtain ⟨spelled, -⟩ := ofText_eq_ok.mp read
  generalize Text.strip s.toList = text at spelled
  cases spelled with
  | star => rfl
  | range _ _ ordered =>
    obtain ⟨few, fewer⟩ := Bool.and_eq_true_iff.mp writable
    exact ofText_text_range ordered few fewer
  | step _ positive => exact ofText_text_repetition positive writable
  | shifted _ _ positive | shiftedBelow _ _ positive =>
    obtain ⟨few, fewer⟩ := Bool.and_eq_true_iff.mp writable
    exact ofText_text_shifted positive few fewer

/-- A text is read as the field that it spells, unless it spells a number with too many digits:
then the failure to read that number comes through. Any other text is refused. What is read is
written so that it reads the same, and different fields that are read are written differently. -/
theorem reads_exactly_spellings (s : String) :
    (∀ field, ofValue (.text s) = .ok field ↔ Spells (Text.strip s.toList) field ∧
      ∀ digits, ¬Overlong (Text.strip s.toList) digits) ∧
    (∀ digits, Overlong (Text.strip s.toList) digits → ∃ error,
      ofValue (.text s) = .error error ∧
        ∀ path, (RuleError.field error path).failure = .tooManyDigits digits) ∧
    ((∀ field, ¬Spells (Text.strip s.toList) field) →
      (∀ digits, ¬Overlong (Text.strip s.toList) digits) → ∃ error,
      ofValue (.text s) = .error error ∧
        ∀ path, (RuleError.field error path).failure.kind = "RuleError") ∧
    (∀ field, ofValue (.text s) = .ok field → ofValue (.text field.text) = .ok field) ∧
    ∀ other field given, ofValue (.text s) = .ok field → ofValue (.text other) = .ok given →
      field ≠ given → field.text ≠ given.text := by
  refine ⟨fun field => ofText_eq_ok, ?_, ?_, fun field => ofText_text, ?_⟩
  · exact fun digits overlong => ⟨_, ofText_overlong overlong, fun path => rfl⟩
  · intro unspelled short
    obtain ⟨field, -, spelled⟩ | ⟨error, refused, shown⟩ := ofText_spelled_or_refused short
    · exact absurd spelled (unspelled field)
    · refine ⟨error, refused, fun path => ?_⟩
      rw [RuleError.failure, RuleError.breach?, shown]
      rfl
  · intro other field given read readOther different same
    have again := ofText_text read
    rw [same, ofText_text readOther] at again
    exact different (Except.ok.inj again).symm

/-- A step of one after more zeros than are read. -/
def zerosBeforeOne : List Char :=
  List.replicate 4999 '0' ++ ['1']

theorem overlong_zerosBeforeOne :
    Overlong (Text.strip (String.ofList ('/' :: zerosBeforeOne)).toList) 5000 := by
  have digits : ∀ c ∈ zerosBeforeOne, Text.isDigit c = true := by
    intro c member
    obtain zero | one := List.mem_append.mp member
    · cases List.eq_of_mem_replicate zero
      decide
    · cases List.mem_singleton.mp one
      decide
  have filled : zerosBeforeOne ≠ [] := List.append_ne_nil_of_right_ne_nil _ (List.cons_ne_nil _ _)
  have run : IsRun zerosBeforeOne := Text.allAre_iff.mpr ⟨filled, digits⟩
  have length : zerosBeforeOne.length = 5000 := by
    rw [zerosBeforeOne, List.length_append, List.length_replicate, List.length_singleton]
  rw [String.toList_ofList, Text.strip_eq_self]
  · exact ⟨_, _, .step run, List.find?_cons_of_pos (by rw [length]; rfl), length⟩
  · exact Text.isSolid_cons.mpr ⟨by decide, fun c member => Text.isBlank_of_isDigit (digits c member)⟩

/-- Zeros in front, a zero below zero, digits of another script and blanks around are gone once the
field is written, the text of a range in the wrong order spells nothing, and too many zeros in front
are not read. -/
theorem reads_exactly_spellings_negative_zero :
    ofValue (.text " -00/\u0660\u0667\n") = .ok (.shifted 0 7) ∧ (Field.shifted 0 7).text = "0/7" ∧
      ofValue (.text "0/7") = .ok (.shifted 0 7) ∧
      (Field.shifted 0 7).text ≠ (Field.repetition 7).text ∧
      (∃ error, ofValue (.text "7-7") = .error error ∧
        ∀ path, (RuleError.field error path).failure.kind = "RuleError") ∧
      ∃ error, ofValue (.text (String.ofList ('/' :: zerosBeforeOne))) = .error error ∧
        ∀ path, (RuleError.field error path).failure = .tooManyDigits 5000 := by
  have read : ofValue (.text " -00/\u0660\u0667\n") = .ok (.shifted 0 7) := by rfl
  have wrong : ofText "7-7" = .error (.rangeOrder 7 7) := by rfl
  have short : ∀ digits, ¬Overlong (Text.strip "7-7".toList) digits := by
    intro digits overlong
    cases wrong.symm.trans (ofText_overlong overlong)
  obtain ⟨-, -, -, again, apart⟩ := reads_exactly_spellings " -00/\u0660\u0667\n"
  obtain ⟨-, -, refused, -⟩ := reads_exactly_spellings "7-7"
  obtain ⟨-, untold, -⟩ := reads_exactly_spellings (String.ofList ('/' :: zerosBeforeOne))
  refine ⟨read, by rfl, again _ read, apart "/7" _ _ read rfl (by decide), refused ?_ short,
    untold 5000 overlong_zerosBeforeOne⟩
  intro field spelled
  cases wrong.symm.trans (ofText_of_spells spelled short)

end Spellings

end Field

end Timetable
