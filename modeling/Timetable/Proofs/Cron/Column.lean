import Timetable.Proofs.Cron.Naming
import Timetable.Proofs.Field.Refused

/-! Columns and the fields they give.

A column gives fields exactly if each of its pieces stands for one. The fields are those of the
pieces, except that several plain numbers make one alternation.
-/

set_option autoImplicit false

namespace Timetable

namespace Cron

section Numeric

variable {names : Names} {text done piece : List Char} {c : Char} {n : Nat} {domain : Domain}
  {field : Field}

theorem isBlank_of_isNumeric (numeric : isNumeric c = true) : Text.isBlank c = false := by
  simp only [isNumeric, Bool.or_eq_true, List.contains_iff_mem] at numeric
  cases numeric with
  | inl digit => exact Text.isBlank_of_isDigit digit
  | inr mark => exact (Text.marks_spec c mark).2.1

theorem isNumeric_of_numeral (read : Text.Numeral text n) : ∀ c ∈ text, isNumeric c = true :=
  fun c member => by rw [isNumeric, read.isDigit member, Bool.true_or]

theorem isNumeric_of_mark (known : c ∈ ['*', '/', '-', ',']) : isNumeric c = true := by
  rw [isNumeric, List.contains_iff_mem.mpr known, Bool.or_true]

/-- Pieces in digits hold digits and marks, of which none is a comma, and are not empty. -/
theorem Piece.numeric (stands : Piece .digits domain piece field) :
    piece ≠ [] ∧ ∀ c ∈ piece, isNumeric c = true ∧ c ≠ ',' := by
  have number {text : List Char} {n : Nat} (read : Text.Numeral text n) :
      ∀ c ∈ text, isNumeric c = true ∧ c ≠ ',' := fun c member =>
    ⟨isNumeric_of_numeral read c member, fun same => read.free comma_spec.2 (same ▸ member)⟩
  have mark : ∀ c ∈ ['*', '/', '-'], isNumeric c = true ∧ c ≠ ',' :=
    List.all_iff_forall_prop.mp (by decide)
  cases stands with
  | star => exact ⟨by decide, List.forall_mem_singleton.mpr (mark _ (by decide))⟩
  | exact written within => exact ⟨written.1.ne_nil, number written.1⟩
  | range before after | shifted before after =>
    refine ⟨by simp, List.forall_mem_append.mpr ⟨number before, ?_⟩⟩
    exact List.forall_mem_cons.mpr ⟨mark _ (by decide), number after⟩
  | step written =>
    exact ⟨List.cons_ne_nil _ _, List.forall_mem_cons.mpr ⟨mark _ (by decide), number written⟩⟩
  | starStep written =>
    exact ⟨List.cons_ne_nil _ _, List.forall_mem_cons.mpr ⟨mark _ (by decide),
      List.forall_mem_cons.mpr ⟨mark _ (by decide), number written⟩⟩⟩
  | shiftedBelow before after =>
    refine ⟨by simp, List.forall_mem_append.mpr ⟨?_, ?_⟩⟩
    · exact List.forall_mem_cons.mpr ⟨mark _ (by decide), number before⟩
    · exact List.forall_mem_cons.mpr ⟨mark _ (by decide), number after⟩

theorem isSolid_of_numeric (numeric : ∀ c ∈ text, isNumeric c = true) : Text.IsSolid text :=
  fun c member => isBlank_of_isNumeric (numeric c member)

theorem Replaced.isSolid (replaced : Replaced names text done) (solid : Text.IsSolid text) :
    Text.IsSolid done := by
  induction replaced with
  | nil => exact solid
  | keep _ _ ih =>
    obtain ⟨first, others⟩ := Text.isSolid_cons.mp solid
    exact Text.isSolid_cons.mpr ⟨first, ih others⟩
  | name _ _ _ _ _ ih =>
    refine Text.isSolid_append.mpr ⟨?_, ih (Text.isSolid_append.mp solid).2⟩
    exact isSolid_of_numeric (isNumeric_of_numeral (Text.numeral_toDigits _))

end Numeric

inductive Gathered : List Field → List Field → Prop where
  | each (fields : List Field) : Gathered fields fields
  | whole (numbers : List Int) :
      Gathered (numbers.map .exact) [.alternation (Field.withoutRepeats [] numbers)]

section Specifiers

variable {part : Part} {pieces : List (List Char)} {fields atoms : List Field}

theorem integers_map_int (numbers : List Int) :
    Field.integers (numbers.map .int) = .ok numbers := by
  induction numbers with
  | nil => rfl
  | cons n rest ih => rw [List.map_cons, Field.integers, ih]; rfl

theorem ofValue_numbers {numbers : List Int} (some : numbers ≠ []) :
    Field.ofValue (.list (numbers.map .int)) =
      .ok (.alternation (Field.withoutRepeats [] numbers)) := by
  cases numbers with
  | nil => exact absurd rfl some
  | cons n rest =>
    have read := integers_map_int (n :: rest)
    simp only [List.map_cons] at read
    simp only [Field.ofValue, Field.alternationOf, Field.collection?, List.map_cons, read]
    rfl

theorem valid_alternation {numbers : List Int} :
    (Field.alternation (Field.withoutRepeats [] numbers)).valid part = true ↔
      ∀ field ∈ numbers.map Field.exact, field.valid part = true := by
  simp [Field.valid, Field.mem_withoutRepeats]

def ReadsPiece (part : Part) (piece : List Char) (field : Field) : Prop :=
  ∃ value, specifier piece = .ok value ∧ Rule.Reads part value field

theorem int_of_plain {piece : List Char} {value : Value}
    (plain : Text.allAre Text.isPlainDigit piece = true) (given : specifier piece = .ok value) :
    value = .int (Text.numberFrom 0 piece) := by
  by_cases long : Text.digitLimit < piece.length
  · rw [specifier_of_overlong plain long] at given
    cases given
  · have known := specifier_of_plain (Text.plainNumeral_iff.mpr ⟨plain, rfl⟩) (Nat.le_of_not_lt long)
    exact Except.ok.inj (given.symm.trans known)

theorem reads_int {n : Int} {field : Field} :
    Rule.Reads part (.int n) field ↔ field = .exact n ∧ (Field.exact n).valid part = true := by
  simp only [Rule.Reads, Field.ofValue, Except.ok.injEq]
  rw [eq_comm]
  exact and_congr_right fun same => same ▸ Iff.rfl

theorem reads_numbers {numbers : List Int} :
    List.Forall₂ (Rule.Reads part) (numbers.map .int) atoms ↔
      atoms = numbers.map .exact ∧ ∀ field ∈ numbers.map Field.exact, field.valid part = true := by
  induction numbers generalizing atoms with
  | nil => simp [List.forall₂_nil_left_iff]
  | cons n rest ih =>
    simp only [List.map_cons, List.forall₂_cons_left_iff, reads_int, ih, List.forall_mem_cons]
    constructor
    · rintro ⟨_, _, ⟨rfl, first⟩, ⟨rfl, others⟩, rfl⟩
      exact ⟨rfl, first, others⟩
    · rintro ⟨rfl, first, others⟩
      exact ⟨_, _, ⟨rfl, first⟩, ⟨rfl, others⟩, rfl⟩

theorem specifiersOf_eq_ok {items : List Value} : specifiersOf pieces = .ok items ↔
    List.Forall₂ (fun piece value => specifier piece = .ok value) pieces items := by
  induction pieces generalizing items with
  | nil =>
    rw [List.forall₂_nil_left_iff, specifiersOf, Except.ok.injEq]
    exact eq_comm
  | cons piece rest ih =>
    simp only [specifiersOf, List.forall₂_cons_left_iff]
    cases specifier piece with
    | error error => simp
    | ok value => simp [mapped_eq_ok, ih]

theorem ints_of_plain {items : List Value}
    (plain : ∀ piece ∈ pieces, Text.allAre Text.isPlainDigit piece = true)
    (each : List.Forall₂ (fun piece value => specifier piece = .ok value) pieces items) :
    items = (pieces.map fun piece => (Text.numberFrom 0 piece : Int)).map .int := by
  induction each with
  | nil => rfl
  | cons first _ ih =>
    obtain ⟨now, later⟩ := List.forall_mem_cons.mp plain
    rw [List.map_cons, List.map_cons, ← ih later, int_of_plain now first]

theorem specifiers_cases {items : List Value} (given : specifiersOf pieces = .ok items) :
    specifiers pieces = .ok items ∨ ∃ numbers : List Int, numbers ≠ [] ∧
      items = numbers.map .int ∧ specifiers pieces = .ok [.list (numbers.map .int)] := by
  simp only [specifiers, given, Except.map]
  split
  next listed =>
    have ints := ints_of_plain (List.all_eq_true.mp listed.2) (specifiersOf_eq_ok.mp given)
    refine .inr ⟨_, ?_, ints, by rw [ints]⟩
    rintro none
    rw [List.map_eq_nil_iff.mp none] at listed
    cases listed.1
  next => exact .inl rfl

theorem specifiers_reads (each : List.Forall₂ (ReadsPiece part) pieces atoms) :
    ∃ values fields, specifiers pieces = .ok values ∧
      List.Forall₂ (Rule.Reads part) values fields ∧ Gathered atoms fields := by
  obtain ⟨items, given, read⟩ := forall₂_through.mp each
  -- Plain numbers that are read one by one suit the part each, and so does their alternation.
  obtain known | ⟨numbers, some, rfl, known⟩ := specifiers_cases (specifiersOf_eq_ok.mpr given)
  · exact ⟨items, atoms, known, read, .each atoms⟩
  · obtain ⟨rfl, suit⟩ := reads_numbers.mp read
    exact ⟨_, _, known, .cons ⟨ofValue_numbers some, valid_alternation.mpr suit⟩ .nil,
      .whole numbers⟩

theorem exists_specifiersOf {values : List Value} (given : specifiers pieces = .ok values) :
    ∃ items, specifiersOf pieces = .ok items := by
  obtain ⟨items, known, -⟩ := mapped_eq_ok.mp given
  exact ⟨items, known⟩

theorem reads_of_specifiers {values : List Value} (given : specifiers pieces = .ok values)
    (read : List.Forall₂ (Rule.Reads part) values fields) :
    ∃ atoms, List.Forall₂ (ReadsPiece part) pieces atoms := by
  obtain ⟨items, known⟩ := exists_specifiersOf given
  have each := specifiersOf_eq_ok.mp known
  obtain same | ⟨numbers, some, rfl, whole⟩ := specifiers_cases known
  · cases given.symm.trans same
    exact ⟨fields, forall₂_through.mpr ⟨_, each, read⟩⟩
  · cases given.symm.trans whole
    obtain ⟨field, _, ⟨member, suits⟩, -⟩ := List.forall₂_cons_left_iff.mp read
    rw [ofValue_numbers some] at member
    cases member
    exact ⟨_, forall₂_through.mpr
      ⟨_, each, reads_numbers.mpr ⟨rfl, valid_alternation.mp suits⟩⟩⟩

end Specifiers

def ColumnReads (part : Part) (token : List Char) (fields : List Field) : Prop :=
  ∃ values, column (namesFor part) part.name (String.ofList token) = .ok values ∧
    values ≠ [] ∧ List.Forall₂ (Rule.Reads part) values fields

section Columns

variable {part : Part} {token text : List Char} {pieces : List (List Char)}
  {values : List Value} {fields atoms : List Field} {names : Names} {name : String}

theorem specifiers_ne_nil (some : pieces ≠ []) (given : specifiers pieces = .ok values) :
    values ≠ [] := by
  obtain ⟨items, known⟩ := exists_specifiersOf given
  obtain same | ⟨numbers, -, -, whole⟩ := specifiers_cases known
  · cases given.symm.trans same
    rintro rfl
    exact some (List.forall₂_nil_right_iff.mp (specifiersOf_eq_ok.mp known))
  · cases given.symm.trans whole
    exact List.cons_ne_nil _ _

/-- What is read of a column: its letters in lower case, and its names replaced where it has any. -/
def IsShown (part : Part) (token text : List Char) : Prop :=
  (if (namesFor part).isEmpty then .ok (Text.lower token)
    else replaceNames (namesFor part) ("cron." ++ part.name) (Text.lower token)) = .ok text

/-- The piece stands for the field in the column of the part, and no number in it has too many
digits once its names are replaced. -/
def StandsFor (part : Part) (piece : List Char) (field : Field) : Prop :=
  ∃ done, Replaced (namesFor part) piece done ∧
    Piece .digits part.domain done field ∧ ∀ digits, ¬Overlong done digits

/-- What a column without blanks is read as, with its names replaced. -/
theorem column_eq_ok (solid : Text.IsSolid token) :
    column (namesFor part) part.name (String.ofList token) = .ok values ↔ ∃ text,
      IsShown part token text ∧ (∀ piece ∈ Text.pieces ',' text, piece ≠ []) ∧
        specifiers (Text.pieces ',' text) = .ok values := by
  simp only [column, IsShown, String.toList_ofList, Text.strip_eq_self solid]
  split
  next error failed => simp only [failed, reduceCtorEq, false_and, exists_false]
  next text named =>
    simp only [named, Except.ok.injEq, exists_eq_left']
    split
    next gap =>
      constructor
      · intro read
        cases read
      · rintro ⟨filled, -⟩
        obtain ⟨piece, member, empty⟩ := List.any_eq_true.mp gap
        exact absurd (List.isEmpty_iff.mp empty) (filled piece member)
    next full =>
      refine (and_iff_right fun piece member empty => full ?_).symm
      exact List.any_eq_true.mpr ⟨piece, member, List.isEmpty_iff.mpr empty⟩

theorem numeric_of_pieces (stand : List.Forall₂ (Piece .digits part.domain) pieces atoms) :
    (∀ piece ∈ pieces, piece ≠ [] ∧ ',' ∉ piece ∧ Text.IsSolid piece) ∧
      ∀ c ∈ [','].intercalate pieces, isNumeric c = true := by
  induction stand with
  | nil => simp
  | @cons piece atom pieces atoms first _ ih =>
    obtain ⟨some, numeric⟩ := first.numeric
    refine ⟨List.forall_mem_cons.mpr ⟨⟨some, fun comma => (numeric ',' comma).2 rfl,
      isSolid_of_numeric fun c member => (numeric c member).1⟩, ih.1⟩, ?_⟩
    cases pieces with
    | nil =>
      rw [List.intercalate_singleton]
      exact fun c member => (numeric c member).1
    | cons next rest =>
      rw [List.intercalate_cons_cons, List.append_assoc]
      refine List.forall_mem_append.mpr ⟨fun c member => (numeric c member).1, ?_⟩
      exact List.forall_mem_cons.mpr ⟨isNumeric_of_mark (by decide), ih.2⟩

theorem reads_pieces (solid : ∀ piece ∈ pieces, Text.IsSolid piece) :
    List.Forall₂ (ReadsPiece part) pieces atoms ↔
      List.Forall₂ (fun piece field => Piece .digits part.domain piece field ∧
        ∀ digits, ¬Overlong piece digits) pieces atoms := by
  induction pieces generalizing atoms with
  | nil => simp [List.forall₂_nil_left_iff]
  | cons piece rest ih =>
    obtain ⟨first, others⟩ := List.forall_mem_cons.mp solid
    simp only [List.forall₂_cons_left_iff, ReadsPiece, read_specifier first, ih others]

theorem shown_of_pieces {dones : List (List Char)}
    (replaced : List.Forall₂ (Replaced (namesFor part)) (Text.pieces ',' token) dones)
    (stand : List.Forall₂ (Piece .digits part.domain) dones atoms) :
    IsShown part token ([','].intercalate dones) ∧
      Text.pieces ',' ([','].intercalate dones) = dones := by
  obtain ⟨each, numeric⟩ := numeric_of_pieces stand
  have some : dones ≠ [] := by
    rintro rfl
    exact Text.pieces_ne_nil token (List.forall₂_nil_right_iff.mp replaced)
  have whole : Replaced (namesFor part) token ([','].intercalate dones) := by
    rw [← @Text.intercalate_pieces ',' token]
    exact (replaced_intercalate (Text.pieces_ne_nil token)).mpr ⟨dones, replaced, rfl⟩
  -- What replaces the pieces holds no commas, so joined it falls into the same pieces again.
  exact ⟨(named_eq_ok (isPlain_namesFor part) numeric).mpr whole,
    Text.pieces_intercalate (fun done member => (each done member).2.1) some⟩

theorem columnReads_of_pieces (solid : Text.IsSolid token)
    (stand : List.Forall₂ (StandsFor part) (Text.pieces ',' token) atoms) :
    ∃ fields, ColumnReads part token fields ∧ Gathered atoms fields := by
  obtain ⟨dones, replaced, stand⟩ := forall₂_through.mp stand
  have formed := stand.imp fun _ _ known => known.1
  obtain ⟨shown, parted⟩ := shown_of_pieces replaced formed
  obtain ⟨each, -⟩ := numeric_of_pieces formed
  obtain ⟨values, fields, given, read, gathered⟩ := specifiers_reads
    ((reads_pieces fun done member => (each done member).2.2).mpr stand)
  have some : dones ≠ [] := parted ▸ Text.pieces_ne_nil _
  refine ⟨fields, ⟨values, (column_eq_ok solid).mpr ⟨_, shown, ?_⟩, specifiers_ne_nil some given,
    read⟩, gathered⟩
  rw [parted]
  exact ⟨fun done member => (each done member).1, given⟩

theorem isSolid_of_shown (solid : Text.IsSolid token) (shown : IsShown part token text) :
    Text.IsSolid text := by
  have lowered : Text.IsSolid (Text.lower token) := Text.isSolid_lowerAfter solid
  unfold IsShown at shown
  split at shown
  next =>
    cases shown
    exact lowered
  next => exact ((replaceNames_eq_ok (isPlain_namesFor part)).mp shown).isSolid lowered

/-- Where what is shown of a token has pieces in digits, each of them replaces one of the token. -/
theorem pieces_of_shown (shown : IsShown part token text)
    (stand : List.Forall₂ (Piece .digits part.domain) (Text.pieces ',' text) atoms) :
    List.Forall₂ (Replaced (namesFor part)) (Text.pieces ',' token) (Text.pieces ',' text) := by
  have numeric := (numeric_of_pieces stand).2
  rw [Text.intercalate_pieces] at numeric
  have replaced := (named_eq_ok (isPlain_namesFor part) numeric).mp shown
  rw [← @Text.intercalate_pieces ',' token,
    replaced_intercalate (Text.pieces_ne_nil token)] at replaced
  obtain ⟨dones, matched, rfl⟩ := replaced
  have free : ∀ done ∈ dones, ',' ∉ done := by
    intro done member
    obtain ⟨piece, known, replaced⟩ := mem_of_forall₂ matched member
    exact replaced.comma_free (Text.free_of_mem_pieces known)
  have some : dones ≠ [] := by
    rintro rfl
    exact Text.pieces_ne_nil token (List.forall₂_nil_right_iff.mp matched)
  rwa [Text.pieces_intercalate free some]

theorem pieces_of_columnReads (solid : Text.IsSolid token) (read : ColumnReads part token fields) :
    ∃ atoms, List.Forall₂ (StandsFor part) (Text.pieces ',' token) atoms := by
  obtain ⟨values, column, -, read⟩ := read
  obtain ⟨text, shown, -, given⟩ := (column_eq_ok solid).mp column
  have visible := isSolid_of_shown solid shown
  obtain ⟨atoms, each⟩ := reads_of_specifiers given read
  have stand := (reads_pieces fun piece member c inside =>
    visible c (Text.mem_of_mem_pieces member inside)).mp each
  have replaced := pieces_of_shown shown (stand.imp fun _ _ known => known.1)
  exact ⟨atoms, forall₂_through.mpr ⟨_, replaced, stand⟩⟩

end Columns

section Expressions

variable {part : Part} {token : List Char} {parts : List Part} {tokens : List (List Char)}
  {given : List (Part × List Value)} {rule : Rule} {expression : String}

theorem columns_cons : columns (part :: parts) (token :: tokens) = .ok given ↔ ∃ values rest,
    column (namesFor part) part.name (String.ofList token) = .ok values ∧
      columns parts tokens = .ok rest ∧ given = (part, values) :: rest := by
  rw [columns]
  cases column (namesFor part) part.name (String.ofList token) with
  | error error => simp
  | ok values => simp [mapped_eq_ok]

/-- The columns of an expression, read as the entries of a mapping. -/
theorem ofEntries_columns (keys : given.map Prod.fst = columnParts) :
    Rule.ofEntries "cron" (given.map fun (part, values) => (.text part.name, .list values)) =
      .ok rule ↔
        (∀ column ∈ given, column.2 ≠ [] ∧
          List.Forall₂ (Rule.Reads column.1) column.2 (rule.get column.1)) ∧
        ∀ part, part ∉ columnParts → rule.get part = Rule.midnight.get part := by
  let listed := given.map fun (part, values) => (part, Value.list values)
  have parts : listed.map Prod.fst = columnParts := by
    rw [← keys, List.map_map]
    rfl
  -- The five keys differ, so that each part finds its own column.
  have distinct : (listed.map Prod.fst).Nodup := parts ▸ by decide
  have named := @Rule.namedParts_names "cron" _ [] distinct fun _ _ => List.not_mem_nil
  rw [List.map_map] at named
  refine Iff.trans (Rule.ofEntries_eq_ok named) ?_
  have found {column : Part × List Value} (member : column ∈ given) :
      listed.lookup column.1 = some (.list column.2) :=
    Rule.lookup_of_mem distinct (List.mem_map.mpr ⟨column, member, rfl⟩)
  have absent {part : Part} (outside : part ∉ columnParts) : listed.lookup part = none := by
    refine List.lookup_eq_none_iff.mpr fun entry member => bne_iff_ne.mpr fun same => ?_
    exact outside (parts ▸ List.mem_map.mpr ⟨entry, member, same.symm⟩)
  constructor
  · intro each
    refine ⟨fun column member => (Rule.fieldsOf_eq_ok (found member)).mp (each column.1),
      fun part outside => ?_⟩
    have default := each part
    rw [Rule.fieldsOf_default (absent outside), Except.ok.injEq] at default
    exact default.symm
  · rintro ⟨each, others⟩ part
    by_cases member : part ∈ columnParts
    · rw [← keys] at member
      obtain ⟨column, known, rfl⟩ := List.mem_map.mp member
      exact (Rule.fieldsOf_eq_ok (found known)).mpr (each column known)
    · rw [Rule.fieldsOf_default (absent member), others part member]

theorem columns_read (long : tokens.length = parts.length) :
    (∃ given, columns parts tokens = .ok given ∧ ∀ column ∈ given, column.2 ≠ [] ∧
      List.Forall₂ (Rule.Reads column.1) column.2 (rule.get column.1)) ↔
      List.Forall₂ (fun part token => ColumnReads part token (rule.get part)) parts tokens := by
  induction parts generalizing tokens with
  | nil =>
    rw [List.length_eq_zero_iff.mp long]
    simp [columns]
  | cons part parts ih =>
    obtain ⟨token, tokens, rfl⟩ := List.exists_cons_of_length_eq_add_one long
    rw [List.forall₂_cons, ← ih (Nat.succ.inj long)]
    constructor
    · rintro ⟨_, read, each⟩
      obtain ⟨values, rest, first, others, rfl⟩ := columns_cons.mp read
      obtain ⟨given, each⟩ := List.forall_mem_cons.mp each
      exact ⟨⟨values, first, given⟩, rest, others, each⟩
    · rintro ⟨⟨values, first, given⟩, rest, others, each⟩
      exact ⟨(part, values) :: rest, columns_cons.mpr ⟨values, rest, first, others, rfl⟩,
        List.forall_mem_cons.mpr ⟨given, each⟩⟩

theorem keys_of_columns (long : tokens.length = parts.length)
    (read : columns parts tokens = .ok given) : given.map Prod.fst = parts := by
  induction parts generalizing tokens given with
  | nil =>
    cases read
    rfl
  | cons part parts ih =>
    obtain ⟨token, tokens, rfl⟩ := List.exists_cons_of_length_eq_add_one long
    obtain ⟨values, rest, -, others, rfl⟩ := columns_cons.mp read
    exact congrArg (part :: ·) (ih (Nat.succ.inj long) others)

/-- An expression is read as a rule exactly if it has a column for each of the five parts and these
give their fields; the other parts are the default ones. -/
theorem rule_eq_ok : Cron.rule expression = .ok rule ↔
    List.Forall₂ (fun part token => ColumnReads part token (rule.get part)) columnParts
      (Text.words expression.toList) ∧
    ∀ part, part ∉ columnParts → rule.get part = Rule.midnight.get part := by
  have entered : Cron.rule expression = .ok rule ↔ ∃ given, columnsOf expression = .ok given ∧
      Rule.ofEntries "cron" (given.map fun (part, values) => (.text part.name, .list values)) =
        .ok rule := by
    simp only [Cron.rule]
    cases columnsOf expression with
    | error error => simp
    | ok given =>
      simp only [Except.ok.injEq, exists_eq_left']
      split
      next read => simp only [read, Except.ok.injEq]
      next failed => simp [failed]
  rw [entered, columnsOf]
  split
  next long =>
    rw [← columns_read long]
    constructor
    · rintro ⟨given, known, read⟩
      obtain ⟨each, others⟩ := (ofEntries_columns (keys_of_columns long known)).mp read
      exact ⟨⟨given, known, each⟩, others⟩
    · rintro ⟨⟨given, known, each⟩, others⟩
      exact ⟨given, known, (ofEntries_columns (keys_of_columns long known)).mpr ⟨each, others⟩⟩
  next short =>
    constructor
    · rintro ⟨_, ⟨⟩, _⟩
    · rintro ⟨each, -⟩
      exact absurd each.length_eq.symm short

/-- A rule can be given the fields of each listed part on its own. -/
theorem exists_rule {parts : List Part} {tokens : List (List Char)} (distinct : parts.Nodup)
    {Gives : Part → List Char → List Field → Prop}
    (each : List.Forall₂ (fun part token => ∃ fields, Gives part token fields) parts tokens) :
    ∃ rule : Rule, List.Forall₂ (fun part token => Gives part token (rule.get part)) parts tokens ∧
      ∀ part, part ∉ parts → rule.get part = Rule.midnight.get part := by
  induction each with
  | nil => exact ⟨Rule.midnight, .nil, fun _ _ => rfl⟩
  | @cons part token parts tokens first _ ih =>
    obtain ⟨fresh, distinct⟩ := List.nodup_cons.mp distinct
    obtain ⟨fields, given⟩ := first
    obtain ⟨rule, others, default⟩ := ih distinct
    refine ⟨rule.set part fields, .cons (by rwa [Rule.get_set, if_pos rfl]) ?_,
      fun other outside => ?_⟩
    -- Setting the part leaves what the others were given, as it is not among them.
    · have different : ∀ other ∈ parts, other ≠ part := fun other member same =>
        fresh (same ▸ member)
      refine ((List.forall₂_and_left ..).mpr ⟨different, others⟩).imp fun other token given => ?_
      rw [Rule.get_set, if_neg given.1]
      exact given.2
    · rw [List.mem_cons, not_or] at outside
      rw [Rule.get_set, if_neg outside.1, default other outside.2]

end Expressions

end Cron

end Timetable
