import Mathlib.Data.List.Chain
import Timetable.Proofs.Cron.Column

/-! The grammar of expressions.

An expression has a column for each of five parts, and a column is a comma list of pieces. As names
are replaced by digits before the pieces are read, a name may also stand right next to digits, and
these digits and those of the name then spell one number. Apart from such numbers, an expression is
read exactly if its numbers are digits or whole names.
-/

set_option autoImplicit false

namespace Timetable

namespace Cron

def Numerals.whole (names : Names) : Numerals where
  number text n := Text.Numeral text n ∨ IsName names text n
  alone text n := Text.PlainNumeral text n ∨ IsName names text n

/-- The expression has a column for each of the five parts, and each piece of it has a form. -/
def Conforms (numerals : Names → Numerals) (expression : String) : Prop :=
  List.Forall₂ (fun part token => ∀ piece ∈ Text.pieces ',' token,
      ∃ field, Piece (numerals (namesFor part)) part.domain piece field)
    columnParts (Text.words expression.toList)

def Touches (c d : Char) : Prop :=
  isLetter c = true ∧ Text.isDigit d = true ∨ Text.isDigit c = true ∧ isLetter d = true

/-- No letter stands right next to a digit. -/
def IsApart (text : List Char) : Prop :=
  text.IsChain fun c d => ¬Touches c d

section Apart

variable {text first last : List Char} {mark : Char}

theorem isApart_append (known : mark ∈ ['*', '/', '-', ',']) :
    IsApart (first ++ mark :: last) ↔ IsApart first ∧ IsApart last := by
  obtain ⟨noDigit, -, noLetter⟩ := Text.marks_spec mark known
  have before (c : Char) : ¬Touches c mark := by simp [Touches, noDigit, isLetter, noLetter]
  have after (c : Char) : ¬Touches mark c := by simp [Touches, noDigit, isLetter, noLetter]
  rw [IsApart, List.isChain_append, List.isChain_cons]
  constructor
  · rintro ⟨left, ⟨-, right⟩, -⟩
    exact ⟨left, right⟩
  · rintro ⟨left, right⟩
    exact ⟨left, ⟨fun c _ => after c, right⟩, fun c _ d head => Option.some.inj head ▸ before c⟩

theorem isApart_cons (known : mark ∈ ['*', '/', '-', ',']) :
    IsApart (mark :: last) ↔ IsApart last :=
  (@isApart_append [] last mark known).trans (and_iff_right .nil)

theorem isApart_of_uniform (uniform : (∀ c ∈ text, isLetter c = true) ∨
    ∀ c ∈ text, Text.isDigit c = true) : IsApart text := by
  refine List.Pairwise.isChain (List.pairwise_of_forall_mem_list fun c first d second touches => ?_)
  have never {c : Char} (letter : isLetter c = true) (digit : Text.isDigit c = true) : False := by
    rw [isLetter_of_isDigit digit] at letter
    cases letter
  obtain letters | digits := uniform
  · obtain ⟨-, digit⟩ | ⟨digit, -⟩ := touches
    · exact never (letters d second) digit
    · exact never (letters c first) digit
  · obtain ⟨letter, -⟩ | ⟨-, letter⟩ := touches
    · exact never letter (digits c first)
    · exact never letter (digits d second)

/-- Letters and digits that are apart are all letters or all digits. -/
theorem IsApart.uniform (apart : IsApart text)
    (each : ∀ c ∈ text, isLetter c = true ∨ Text.isDigit c = true) :
    (∀ c ∈ text, isLetter c = true) ∨ ∀ c ∈ text, Text.isDigit c = true := by
  induction text with
  | nil => exact .inl fun _ member => absurd member List.not_mem_nil
  | cons c rest ih =>
    obtain ⟨first, others⟩ := List.forall_mem_cons.mp each
    obtain ⟨next, apart⟩ := List.isChain_cons.mp apart
    cases rest with
    | nil => exact first.imp (fun letter => by simpa using letter) fun digit => by simpa using digit
    | cons d rest =>
      -- The kind of the rest is that of its first character, and the character before it agrees.
      have distinct := next d rfl
      have second := others d List.mem_cons_self
      cases ih apart others with
      | inl letters =>
        refine .inl (List.forall_mem_cons.mpr ⟨first.resolve_right fun digit => ?_, letters⟩)
        exact distinct (.inr ⟨digit, letters d List.mem_cons_self⟩)
      | inr digits =>
        refine .inr (List.forall_mem_cons.mpr ⟨first.resolve_left fun letter => ?_, digits⟩)
        exact distinct (.inl ⟨letter, digits d List.mem_cons_self⟩)

end Apart

section Whole

variable {names : Names} {word text digits : List Char} {n : Nat} {domain : Domain} {field : Field}

theorem IsName.letters (plain : IsPlain names) (known : IsName names word n) :
    word ≠ [] ∧ ∀ c ∈ word, isLetter c = true := by
  obtain ⟨-, -, some, letters⟩ := plain.of_lookup known
  rw [String.toList_ofList] at some letters
  refine ⟨fun none => some (by rw [none]; rfl), fun c member => ?_⟩
  have lowered := letters _ (List.mem_map_of_mem member)
  rwa [isLetter_toLower] at lowered

theorem replaced_of_name (plain : IsPlain names) (known : IsName names word n) :
    Replaced names word (Nat.toDigits 10 n) := by
  obtain ⟨some, letters⟩ := known.letters plain
  have whole := Replaced.name some letters (by simp) known .nil
  rwa [List.append_nil, List.append_nil] at whole

theorem replaced_of_digits (digits : ∀ c ∈ text, Text.isDigit c = true) :
    Replaced names text text :=
  replaced_self fun c member => isLetter_of_isDigit (digits c member)

theorem Replaced.letters_or_digits (replaced : Replaced names text digits)
    (each : ∀ c ∈ digits, Text.isDigit c = true) :
    ∀ c ∈ text, isLetter c = true ∨ Text.isDigit c = true := by
  induction replaced with
  | nil => exact fun _ member => absurd member List.not_mem_nil
  | keep _ _ ih =>
    obtain ⟨first, others⟩ := List.forall_mem_cons.mp each
    exact List.forall_mem_cons.mpr ⟨.inr first, ih others⟩
  | name _ letters _ _ _ ih =>
    exact List.forall_mem_append.mpr
      ⟨fun c member => .inl (letters c member), ih (List.forall_mem_append.mp each).2⟩

theorem Replaced.digits_or_name (replaced : Replaced names text digits)
    (each : ∀ c ∈ digits, Text.isDigit c = true) (some : digits ≠ []) (apart : IsApart text) :
    text = digits ∨ ∃ n, IsName names text n ∧ digits = Nat.toDigits 10 n := by
  -- A text in one kind of character is one run of letters or has nothing to replace.
  cases apart.uniform (replaced.letters_or_digits each) with
  | inl letters =>
    have filled : text ≠ [] := by
      rintro rfl
      exact some (replaced_nil.mp replaced)
    rw [← List.append_nil text, replaced_word filled letters (by simp)] at replaced
    obtain ⟨n, rest, known, rfl, after⟩ := replaced
    rw [replaced_nil.mp after, List.append_nil]
    exact .inr ⟨n, known, rfl⟩
  | inr plain =>
    refine .inl (replaced.eq_of_no_letters fun c member => ?_)
    exact isLetter_of_isDigit (plain c member)

theorem whole_read {reads : List Char → Nat → Prop}
    (spelled : ∀ {text n}, reads text n → Text.Numeral text n)
    (written : ∀ n, reads (Nat.toDigits 10 n) n) (plain : IsPlain names) :
    reads text n ∨ IsName names text n ↔
      (∃ digits, Replaced names text digits ∧ reads digits n) ∧ IsApart text := by
  constructor
  · rintro (digits | known)
    · have each := fun c => (spelled digits).isDigit (c := c)
      exact ⟨⟨text, replaced_of_digits each, digits⟩, isApart_of_uniform (.inr each)⟩
    · exact ⟨⟨_, replaced_of_name plain known, written n⟩,
        isApart_of_uniform (.inl (known.letters plain).2)⟩
  · rintro ⟨⟨digits, replaced, value⟩, apart⟩
    have number := spelled value
    obtain rfl | ⟨m, known, rfl⟩ := replaced.digits_or_name
      (fun c => number.isDigit) number.ne_nil apart
    · exact .inl value
    · cases number.unique (Text.numeral_toDigits m)
      exact .inr known

theorem whole_number (plain : IsPlain names) : (Numerals.whole names).number text n ↔
    (Numerals.glued names).number text n ∧ IsApart text :=
  whole_read id Text.numeral_toDigits plain

theorem whole_alone (plain : IsPlain names) : (Numerals.whole names).alone text n ↔
    (Numerals.glued names).alone text n ∧ IsApart text :=
  whole_read And.left Text.plainNumeral_toDigits plain

/-- A piece has its numbers in digits or whole names exactly if in it names and digits are apart. -/
theorem piece_whole (plain : IsPlain names) : Piece (.whole names) domain text field ↔
    Piece (.glued names) domain text field ∧ IsApart text := by
  have number {text : List Char} {n : Nat} := @whole_number names text n plain
  constructor
  · intro stands
    cases stands with
    | star => exact ⟨.star, (isApart_cons (by decide)).mpr .nil⟩
    | exact written within =>
      obtain ⟨written, apart⟩ := (whole_alone plain).mp written
      exact ⟨.exact written within, apart⟩
    | range before after ordered least greatest =>
      obtain ⟨before, left⟩ := number.mp before
      obtain ⟨after, right⟩ := number.mp after
      exact ⟨.range before after ordered least greatest,
        (isApart_append (by decide)).mpr ⟨left, right⟩⟩
    | step written positive within =>
      obtain ⟨written, apart⟩ := number.mp written
      exact ⟨.step written positive within, (isApart_cons (by decide)).mpr apart⟩
    | starStep written positive within =>
      obtain ⟨written, apart⟩ := number.mp written
      exact ⟨.starStep written positive within,
        (isApart_cons (by decide)).mpr ((isApart_cons (by decide)).mpr apart)⟩
    | shifted before after positive within =>
      obtain ⟨before, left⟩ := number.mp before
      obtain ⟨after, right⟩ := number.mp after
      exact ⟨.shifted before after positive within, (isApart_append (by decide)).mpr ⟨left, right⟩⟩
    | shiftedBelow before after positive within =>
      obtain ⟨before, left⟩ := number.mp before
      obtain ⟨after, right⟩ := number.mp after
      exact ⟨.shiftedBelow before after positive within,
        (isApart_append (by decide)).mpr ⟨(isApart_cons (by decide)).mpr left, right⟩⟩
  · rintro ⟨stands, apart⟩
    cases stands with
    | star => exact .star
    | exact written within => exact .exact ((whole_alone plain).mpr ⟨written, apart⟩) within
    | range before after ordered least greatest =>
      obtain ⟨left, right⟩ := (isApart_append (by decide)).mp apart
      exact .range (number.mpr ⟨before, left⟩) (number.mpr ⟨after, right⟩) ordered least greatest
    | step written positive within =>
      exact .step (number.mpr ⟨written, (isApart_cons (by decide)).mp apart⟩) positive within
    | starStep written positive within =>
      have apart := (isApart_cons (by decide)).mp ((isApart_cons (by decide)).mp apart)
      exact .starStep (number.mpr ⟨written, apart⟩) positive within
    | shifted before after positive within =>
      obtain ⟨left, right⟩ := (isApart_append (by decide)).mp apart
      exact .shifted (number.mpr ⟨before, left⟩) (number.mpr ⟨after, right⟩) positive within
    | shiftedBelow before after positive within =>
      obtain ⟨left, right⟩ := (isApart_append (by decide)).mp apart
      exact .shiftedBelow (number.mpr ⟨before, (isApart_cons (by decide)).mp left⟩)
        (number.mpr ⟨after, right⟩) positive within

end Whole

section Acceptance

variable {expression : String} {text token : List Char} {texts : List (List Char)}

theorem isApart_intercalate :
    IsApart ([','].intercalate texts) ↔ ∀ text ∈ texts, IsApart text := by
  induction texts with
  | nil => simp [IsApart]
  | cons text rest ih =>
    cases rest with
    | nil => simp
    | cons next rest =>
      rw [List.intercalate_cons_cons, List.append_assoc, List.singleton_append,
        isApart_append (by decide), ih]
      exact List.forall_mem_cons.symm

theorem isApart_pieces : IsApart token ↔ ∀ piece ∈ Text.pieces ',' token, IsApart piece := by
  rw [← isApart_intercalate, Text.intercalate_pieces]

theorem conforms_whole :
    Conforms .whole expression ↔ Conforms .glued expression ∧
      ∀ token ∈ Text.words expression.toList, IsApart token := by
  rw [Conforms, Conforms]
  generalize Text.words expression.toList = tokens
  generalize columnParts = parts
  induction tokens generalizing parts with
  | nil => simp
  | cons token tokens ih =>
    cases parts with
    | nil => simp
    | cons part parts =>
      rw [List.forall₂_cons, List.forall₂_cons, ih, List.forall_mem_cons, isApart_pieces,
        and_and_and_comm]
      refine and_congr_left' ?_
      simp only [piece_whole (isPlain_namesFor part), exists_and_right]
      exact forall₂_and

theorem IsShown.unique {part : Part} {other : List Char} (left : IsShown part token text)
    (right : IsShown part token other) : text = other :=
  Except.ok.inj (Eq.trans (Eq.symm left) right)

/-- The pieces of a token have forms if those of what is shown of it do. -/
theorem forms_shown {part : Part} : (∀ piece ∈ Text.pieces ',' token,
    ∃ field, Piece (.glued (namesFor part)) part.domain piece field) ↔
      ∃ text, IsShown part token text ∧
        ∀ piece ∈ Text.pieces ',' text, ∃ field, Piece .digits part.domain piece field := by
  constructor
  · intro formed
    obtain ⟨atoms, each⟩ := exists_forall₂.mpr formed
    obtain ⟨dones, replaced, stand⟩ := forall₂_through.mp
      (each.imp fun _ _ stands => piece_glued.mp stands)
    obtain ⟨shown, parted⟩ := shown_of_pieces replaced stand
    exact ⟨_, shown, parted.symm ▸ exists_forall₂.mp ⟨atoms, stand⟩⟩
  · rintro ⟨text, shown, formed⟩
    obtain ⟨atoms, stand⟩ := exists_forall₂.mpr formed
    have replaced := pieces_of_shown shown stand
    refine exists_forall₂.mp ⟨atoms, ?_⟩
    exact (forall₂_through.mpr ⟨_, replaced, stand⟩).imp fun _ _ => piece_glued.mpr

/-- A column has a piece with a number that has too many digits, once its names are replaced. -/
def IsOverlongColumn (part : Part) (token : List Char) (digits : Nat) : Prop :=
  ∃ text, IsShown part token text ∧ ∃ piece ∈ Text.pieces ',' text, Overlong piece digits

theorem columnReads_iff {part : Part} (solid : Text.IsSolid token) :
    (∃ fields, ColumnReads part token fields) ↔
      (∀ piece ∈ Text.pieces ',' token, ∃ field, StandsFor part piece field) := by
  rw [← exists_forall₂]
  constructor
  · rintro ⟨fields, read⟩
    exact pieces_of_columnReads solid read
  · rintro ⟨atoms, stand⟩
    obtain ⟨fields, read, -⟩ := columnReads_of_pieces solid stand
    exact ⟨fields, read⟩

theorem standsFor_iff {part : Part} :
    (∀ piece ∈ Text.pieces ',' token, ∃ field, StandsFor part piece field) ↔
      (∀ piece ∈ Text.pieces ',' token,
        ∃ field, Piece (.glued (namesFor part)) part.domain piece field) ∧
        ∀ digits, ¬IsOverlongColumn part token digits := by
  constructor
  · intro stand
    obtain ⟨atoms, each⟩ := exists_forall₂.mpr stand
    obtain ⟨dones, replaced, stand⟩ := forall₂_through.mp each
    obtain ⟨shown, parted⟩ := shown_of_pieces replaced (stand.imp fun _ _ known => known.1)
    have formed := exists_forall₂.mp ⟨atoms, stand⟩
    refine ⟨forms_shown.mpr ⟨_, shown, fun piece member => ?_⟩, ?_⟩
    · obtain ⟨field, stands, -⟩ := formed piece (parted ▸ member)
      exact ⟨field, stands⟩
    · rintro digits ⟨text, again, piece, member, overlong⟩
      cases shown.unique again
      obtain ⟨field, -, short⟩ := formed piece (parted ▸ member)
      exact short digits overlong
  · rintro ⟨formed, short⟩
    obtain ⟨text, shown, stand⟩ := forms_shown.mp formed
    have each : ∀ piece ∈ Text.pieces ',' text, ∃ field,
        Piece .digits part.domain piece field ∧ ∀ digits, ¬Overlong piece digits := by
      intro piece member
      obtain ⟨field, stands⟩ := stand piece member
      exact ⟨field, stands, fun digits overlong => short digits ⟨text, shown, piece, member, overlong⟩⟩
    obtain ⟨atoms, each⟩ := exists_forall₂.mpr each
    have replaced := pieces_of_shown shown (each.imp fun _ _ known => known.1)
    exact exists_forall₂.mp ⟨atoms, forall₂_through.mpr ⟨_, replaced, each⟩⟩

/-- An expression is read exactly if each piece of it stands for a field. -/
theorem accepts_pieces : (∃ rule, Cron.rule expression = .ok rule) ↔
    List.Forall₂ (fun part token => ∀ piece ∈ Text.pieces ',' token,
      ∃ field, StandsFor part piece field) columnParts (Text.words expression.toList) := by
  have solid : ∀ token ∈ Text.words expression.toList, Text.IsSolid token :=
    fun token member => (Text.solid_of_mem_words member).2
  have columns : List.Forall₂ (fun part token => ∀ piece ∈ Text.pieces ',' token,
      ∃ field, StandsFor part piece field) columnParts (Text.words expression.toList) ↔
        List.Forall₂ (fun part token => ∃ fields, ColumnReads part token fields) columnParts
          (Text.words expression.toList) := by
    -- Column by column: parts and words are taken in step.
    generalize Text.words expression.toList = tokens at solid ⊢
    generalize columnParts = parts
    induction tokens generalizing parts with
    | nil => simp
    | cons token tokens ih =>
      cases parts with
      | nil => simp
      | cons part parts =>
        obtain ⟨first, others⟩ := List.forall_mem_cons.mp solid
        rw [List.forall₂_cons, List.forall₂_cons, ih others, columnReads_iff first]
  rw [columns]
  constructor
  · rintro ⟨rule, read⟩
    exact (rule_eq_ok.mp read).1.imp fun part token given => ⟨rule.get part, given⟩
  · intro each
    obtain ⟨rule, given⟩ := exists_rule (by decide) each
    exact ⟨rule, rule_eq_ok.mpr given⟩

def IsOverlong (expression : String) (digits : Nat) : Prop :=
  ∃ column ∈ columnParts.zip (Text.words expression.toList),
    IsOverlongColumn column.1 column.2 digits

/-- An expression is read exactly if it conforms to the grammar in which names may be glued to
digits, and no number in it has too many digits. -/
theorem accepts_iff : (∃ rule, Cron.rule expression = .ok rule) ↔
    Conforms .glued expression ∧ ∀ digits, ¬IsOverlong expression digits := by
  simp only [accepts_pieces, standsFor_iff, Conforms, IsOverlong, List.forall₂_iff_zip]
  constructor
  · rintro ⟨long, each⟩
    refine ⟨⟨long, fun member => (each member).1⟩, ?_⟩
    rintro digits ⟨column, member, overlong⟩
    exact (each member).2 digits overlong
  · rintro ⟨⟨long, formed⟩, short⟩
    exact ⟨long, fun member => ⟨formed member, fun digits overlong =>
      short digits ⟨_, member, overlong⟩⟩⟩

end Acceptance

end Cron

end Timetable
