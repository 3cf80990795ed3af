import Timetable.Cron
import Timetable.Proofs.Field.Grammar
import Timetable.Proofs.Rule.Filled

/-! The pieces of a column and the fields they stand for.

The forms of a piece are given once, for any way of writing numbers. Where numbers are written in
digits, the reader of fields takes a piece for a field exactly if it has the form of that field and
the field suits the part. Beside the spellings of fields a piece can be a plain number, and a star
can precede a step.
-/

set_option autoImplicit false

namespace Timetable

namespace Cron

/-- How numbers are written: within a piece, and alone. -/
structure Numerals where
  number : List Char → Nat → Prop
  alone : List Char → Nat → Prop

def Numerals.digits : Numerals where
  number := Text.Numeral
  alone := Text.PlainNumeral

/-- A number in a piece has so many digits, too many to be read. -/
inductive Overlong : List Char → Nat → Prop where
  | alone {text : List Char} (plain : Text.allAre Text.isPlainDigit text = true)
      (long : Text.digitLimit < text.length) : Overlong text text.length
  | within {text : List Char} {digits : Nat} (overlong : Field.Overlong text digits) :
      Overlong text digits
  | starred {text : List Char} {digits : Nat} (overlong : Field.Overlong ('/' :: text) digits) :
      Overlong ('*' :: '/' :: text) digits

inductive Piece (numerals : Numerals) (domain : Domain) : List Char → Field → Prop where
  | star : Piece numerals domain ['*'] .star
  | exact {text : List Char} {n : Nat} (written : numerals.alone text n)
      (within : domain.contains n = true) : Piece numerals domain text (.exact n)
  | range {first last : List Char} {start finish : Nat} (before : numerals.number first start)
      (after : numerals.number last finish) (ordered : start < finish)
      (least : domain.contains start = true) (greatest : domain.contains finish = true) :
      Piece numerals domain (first ++ '-' :: last) (.range start finish)
  | step {text : List Char} {rep : Nat} (written : numerals.number text rep) (positive : 0 < rep)
      (within : domain.contains rep = true) : Piece numerals domain ('/' :: text) (.repetition rep)
  | starStep {text : List Char} {rep : Nat} (written : numerals.number text rep)
      (positive : 0 < rep) (within : domain.contains rep = true) :
      Piece numerals domain ('*' :: '/' :: text) (.repetition rep)
  | shifted {first last : List Char} {shift rep : Nat} (before : numerals.number first shift)
      (after : numerals.number last rep) (positive : 0 < rep)
      (within : domain.contains (shift + rep) = true) :
      Piece numerals domain (first ++ '/' :: last) (.shifted shift rep)
  | shiftedBelow {first last : List Char} {shift rep : Nat}
      (before : numerals.number first shift) (after : numerals.number last rep)
      (positive : 0 < rep) (within : domain.contains (-(shift : Int) + rep) = true) :
      Piece numerals domain ('-' :: first ++ '/' :: last) (.shifted (-(shift : Int)) rep)

section Digits

variable {part : Part} {piece rest : List Char} {field : Field} {domain : Domain} {value : Value}
  {digits n : Nat} {error : CronError}

def IsPlainPiece (piece : List Char) : Prop :=
  Text.allAre Text.isPlainDigit piece = false ∧ ∀ rest, piece ≠ '*' :: '/' :: rest

theorem specifier_of_plain (plain : Text.PlainNumeral piece n)
    (short : piece.length ≤ Text.digitLimit) : specifier piece = .ok (.int n) := by
  obtain ⟨each, spelled⟩ := Text.plainNumeral_iff.mp plain
  unfold specifier
  rw [if_pos each, Text.number_eq_ok.mpr ⟨short, spelled⟩]

theorem specifier_of_overlong (plain : Text.allAre Text.isPlainDigit piece = true)
    (long : Text.digitLimit < piece.length) :
    specifier piece = .error (.tooLong piece.length) := by
  unfold specifier
  rw [if_pos plain, Text.number_eq_error.mpr ⟨long, rfl⟩]

theorem specifier_of_starStep (rest : List Char) :
    specifier ('*' :: '/' :: rest) = .ok (.text (String.ofList ('/' :: rest))) := by
  have noStar := (Text.marks_spec '*' (by decide)).1
  rw [specifier, Text.not_allAre_plain List.mem_cons_self noStar]
  rfl

theorem specifier_of_plainPiece (plain : IsPlainPiece piece) :
    specifier piece = .ok (.text (String.ofList piece)) := by
  rw [specifier, plain.1, if_neg Bool.false_ne_true]
  exact plain.2

theorem piece_cases (piece : List Char) :
    (Text.allAre Text.isPlainDigit piece = true ∧ Text.digitLimit < piece.length) ∨
      (∃ n, Text.PlainNumeral piece n ∧ piece.length ≤ Text.digitLimit) ∨
      (∃ rest, piece = '*' :: '/' :: rest) ∨ IsPlainPiece piece := by
  by_cases plain : Text.allAre Text.isPlainDigit piece = true
  · by_cases long : Text.digitLimit < piece.length
    · exact .inl ⟨plain, long⟩
    · exact .inr (.inl ⟨_, Text.plainNumeral_iff.mpr ⟨plain, rfl⟩, Nat.le_of_not_lt long⟩)
  · by_cases starred : ∃ rest, piece = '*' :: '/' :: rest
    · exact .inr (.inr (.inl starred))
    · exact .inr (.inr (.inr ⟨eq_false_of_ne_true plain, not_exists.mp starred⟩))

theorem valid_of_piece {numerals : Numerals} (stands : Piece numerals part.domain piece field) :
    field.valid part = true := by
  cases stands with
  | star => rfl
  | exact written within => exact within
  | range before after ordered least greatest =>
    exact Bool.and_eq_true_iff.mpr ⟨least, greatest⟩
  | step written positive within | starStep written positive within
  | shifted before after positive within | shiftedBelow before after positive within =>
    exact Bool.and_eq_true_iff.mpr ⟨decide_eq_true (Int.natCast_pos.mpr positive), within⟩

theorem piece_of_plain (plain : Text.PlainNumeral piece n) :
    Piece .digits part.domain piece field ↔ field = .exact n ∧ field.valid part = true := by
  have free := fun {c} (known : c ∈ ['*', '/', '-', ',']) =>
    plain.1.free (Text.marks_spec c known).1
  constructor
  · intro stands
    have suits := valid_of_piece stands
    cases stands with
    | exact written => exact ⟨by rw [written.1.unique plain.1], suits⟩
    | star | starStep => exact absurd List.mem_cons_self (free (show '*' ∈ _ by decide))
    | range | shiftedBelow => exact absurd (by simp) (free (show '-' ∈ _ by decide))
    | step | shifted => exact absurd (by simp) (free (show '/' ∈ _ by decide))
  · rintro ⟨rfl, suits⟩
    exact .exact plain suits

theorem piece_of_spells (suits : field.valid part = true) (spelled : Field.Spells piece field) :
    Piece .digits part.domain piece field := by
  cases spelled with
  | star => exact .star
  | range before after ordered =>
    obtain ⟨least, greatest⟩ := Bool.and_eq_true_iff.mp suits
    exact .range before after ordered least greatest
  | step written positive => exact .step written positive (Bool.and_eq_true_iff.mp suits).2
  | shifted before after positive =>
    exact .shifted before after positive (Bool.and_eq_true_iff.mp suits).2
  | shiftedBelow before after positive =>
    exact .shiftedBelow before after positive (Bool.and_eq_true_iff.mp suits).2

theorem piece_of_plainPiece (plain : IsPlainPiece piece) :
    Piece .digits part.domain piece field ↔
      Field.Spells piece field ∧ field.valid part = true := by
  constructor
  · intro stands
    refine ⟨?_, valid_of_piece stands⟩
    cases stands with
    | star => exact .star
    | exact written =>
      exact absurd (Text.plainNumeral_iff.mp written).1 (ne_true_of_eq_false plain.1)
    | range before after ordered => exact .range before after ordered
    | step written positive => exact .step written positive
    | starStep => exact absurd rfl (plain.2 _)
    | shifted before after positive => exact .shifted before after positive
    | shiftedBelow before after positive => exact .shiftedBelow before after positive
  · rintro ⟨spelled, suits⟩
    exact piece_of_spells suits spelled

theorem step_of_piece (stands : Piece .digits domain ('/' :: rest) field) :
    ∃ rep, Text.Numeral rest rep ∧ 0 < rep ∧ domain.contains rep = true ∧
      field = .repetition rep := by
  have noSlash := (Text.marks_spec '/' (by decide)).1
  generalize same : '/' :: rest = piece at stands
  cases stands with
  | star | starStep | shiftedBelow => cases same
  | exact written => exact absurd (same ▸ List.mem_cons_self) (written.1.free noSlash)
  | range before | shifted before => exact absurd same.symm (before.append_ne_cons noSlash)
  | step written positive within =>
    cases same
    exact ⟨_, written, positive, within, rfl⟩

theorem piece_starred :
    Piece .digits domain ('*' :: '/' :: rest) field ↔ Piece .digits domain ('/' :: rest) field := by
  have noStar := (Text.marks_spec '*' (by decide)).1
  constructor
  · intro stands
    generalize same : '*' :: '/' :: rest = piece at stands
    cases stands with
    | star | step | shiftedBelow => cases same
    | exact written => exact absurd (same ▸ List.mem_cons_self) (written.1.free noStar)
    | range before | shifted before => exact absurd same.symm (before.append_ne_cons noStar)
    | starStep written positive within =>
      cases same
      exact .step written positive within
  · intro stands
    obtain ⟨rep, written, positive, within, rfl⟩ := step_of_piece stands
    exact .starStep written positive within

theorem plainPiece_step (rest : List Char) : IsPlainPiece ('/' :: rest) :=
  ⟨Text.not_allAre_plain List.mem_cons_self (Text.marks_spec '/' (by decide)).1,
    fun _ same => by cases same⟩

theorem formless_of_plain (plain : Text.PlainNumeral piece n) {runs : List (List Char)} :
    ¬Field.Runs piece runs := by
  have free := fun {c} (known : c ∈ ['*', '/', '-', ',']) =>
    plain.1.free (Text.marks_spec c known).1
  intro formed
  cases formed with
  | range | shiftedBelow => exact absurd (by simp) (free (show '-' ∈ _ by decide))
  | step | shifted => exact absurd (by simp) (free (show '/' ∈ _ by decide))

theorem formless_of_star {runs : List (List Char)} : ¬Field.Runs ('*' :: rest) runs := by
  have noStar := (Text.marks_spec '*' (by decide)).1
  generalize same : '*' :: rest = piece
  intro formed
  cases formed with
  | range before | shifted before => exact before.numeral.append_ne_cons noStar same.symm
  | step | shiftedBelow => cases same

theorem long_of_overlong (plain : Text.PlainNumeral piece n) (overlong : Overlong piece digits) :
    Text.digitLimit < piece.length := by
  cases overlong with
  | alone _ long => exact long
  | within overlong =>
    obtain ⟨_, _, formed, -⟩ := overlong
    exact absurd formed (formless_of_plain plain)
  | starred =>
    exact absurd List.mem_cons_self (plain.1.free (Text.marks_spec '*' (by decide)).1)

theorem overlong_starred :
    Overlong ('*' :: '/' :: rest) digits ↔ Field.Overlong ('/' :: rest) digits := by
  have noStar := (Text.marks_spec '*' (by decide)).1
  refine ⟨fun overlong => ?_, .starred⟩
  generalize same : '*' :: '/' :: rest = piece at overlong
  cases overlong with
  | alone plain =>
    rw [← same, Text.not_allAre_plain List.mem_cons_self noStar] at plain
    cases plain
  | within overlong =>
    obtain ⟨_, _, formed, -⟩ := overlong
    exact absurd (same ▸ formed) formless_of_star
  | starred overlong =>
    cases same
    exact overlong

theorem overlong_of_plainPiece (plain : IsPlainPiece piece) :
    Overlong piece digits ↔ Field.Overlong piece digits := by
  refine ⟨fun overlong => ?_, .within⟩
  cases overlong with
  | alone each => exact absurd each (ne_true_of_eq_false plain.1)
  | within overlong => exact overlong
  | starred => exact absurd rfl (plain.2 _)

theorem reads_text (solid : Text.IsSolid piece) :
    Rule.Reads part (.text (String.ofList piece)) field ↔
      (Field.Spells piece field ∧ ∀ digits, ¬Field.Overlong piece digits) ∧
        field.valid part = true := by
  rw [Rule.Reads, Field.ofValue, Field.ofText_eq_ok, String.toList_ofList,
    Text.strip_eq_self solid]

/-- The reader of fields takes a piece exactly for the field that the piece stands for, unless it
holds a number with too many digits. -/
theorem read_specifier (solid : Text.IsSolid piece) :
    (∃ value, specifier piece = .ok value ∧ Rule.Reads part value field) ↔
      Piece .digits part.domain piece field ∧ ∀ digits, ¬Overlong piece digits := by
  obtain ⟨each, long⟩ | ⟨n, plain, short⟩ | ⟨rest, rfl⟩ | plain := piece_cases piece
  · simp only [specifier_of_overlong each long, reduceCtorEq, false_and, exists_false, false_iff,
      not_and, not_forall, not_not]
    exact fun _ => ⟨_, .alone each long⟩
  · rw [specifier_of_plain plain short, piece_of_plain plain]
    have none : ∀ digits, ¬Overlong piece digits := fun digits overlong =>
      Nat.not_lt_of_le short (long_of_overlong plain overlong)
    simp only [Except.ok.injEq, exists_eq_left', Rule.Reads, Field.ofValue, none, not_false_eq_true,
      implies_true, and_true]
    exact and_congr_left' eq_comm
  · have shorter : Text.IsSolid ('/' :: rest) := (Text.isSolid_cons.mp solid).2
    simp only [specifier_of_starStep, Except.ok.injEq, exists_eq_left', reads_text shorter,
      piece_starred, piece_of_plainPiece (plainPiece_step rest), overlong_starred]
    exact and_right_comm
  · simp only [specifier_of_plainPiece plain, Except.ok.injEq, exists_eq_left', reads_text solid,
      piece_of_plainPiece plain, overlong_of_plainPiece plain]
    exact and_right_comm

theorem overlong_of_specifier (failed : specifier piece = .error error) :
    ∃ digits, error = .tooLong digits ∧ Overlong piece digits := by
  obtain ⟨each, long⟩ | ⟨n, plain, short⟩ | ⟨rest, rfl⟩ | plain := piece_cases piece
  · rw [specifier_of_overlong each long] at failed
    cases failed
    exact ⟨_, rfl, .alone each long⟩
  · rw [specifier_of_plain plain short] at failed
    cases failed
  · rw [specifier_of_starStep] at failed
    cases failed
  · rw [specifier_of_plainPiece plain] at failed
    cases failed

theorem overlong_of_text {s : String} (solid : Text.IsSolid piece)
    (handed : specifier piece = .ok (.text s))
    (overlong : Field.Overlong (Text.strip s.toList) digits) : Overlong piece digits := by
  obtain ⟨each, long⟩ | ⟨n, plain, short⟩ | ⟨rest, rfl⟩ | plain := piece_cases piece
  · rw [specifier_of_overlong each long] at handed
    cases handed
  · rw [specifier_of_plain plain short] at handed
    cases handed
  · rw [specifier_of_starStep] at handed
    cases handed
    rw [String.toList_ofList, Text.strip_eq_self (Text.isSolid_cons.mp solid).2] at overlong
    exact .starred overlong
  · rw [specifier_of_plainPiece plain] at handed
    cases handed
    rw [String.toList_ofList, Text.strip_eq_self solid] at overlong
    exact .within overlong

/-- A number with too many digits is told of, wherever in the piece it stands. -/
theorem ofValue_of_overlong (solid : Text.IsSolid piece) (handed : specifier piece = .ok value)
    (overlong : Overlong piece digits) : Field.ofValue value = .error (.tooLong digits) := by
  obtain ⟨each, long⟩ | ⟨n, plain, short⟩ | ⟨rest, rfl⟩ | plain := piece_cases piece
  · rw [specifier_of_overlong each long] at handed
    cases handed
  · exact absurd (long_of_overlong plain overlong) (Nat.not_lt_of_le short)
  · rw [specifier_of_starStep] at handed
    cases handed
    refine Field.ofText_overlong ?_
    rw [String.toList_ofList, Text.strip_eq_self (Text.isSolid_cons.mp solid).2]
    exact overlong_starred.mp overlong
  · rw [specifier_of_plainPiece plain] at handed
    cases handed
    refine Field.ofText_overlong ?_
    rw [String.toList_ofList, Text.strip_eq_self solid]
    exact (overlong_of_plainPiece plain).mp overlong

end Digits

end Cron

end Timetable
