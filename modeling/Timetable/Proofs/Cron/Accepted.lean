import Timetable.Proofs.Cron.Grammar
import Timetable.Proofs.Rule.Accepted

/-! Expressions that are read, and the errors of the others.

An expression that is not read fails with an error of its own kind, for a piece of it that has no
form, or with the failure to read a number that has too many digits.
-/

set_option autoImplicit false

namespace Timetable

namespace Cron

section Pieces

variable {part : Part} {path : String} {piece : List Char} {value : Value} {field : Field}
  {error : RuleError} {digits : Nat}

theorem isWritable_of_specifier (handed : specifier piece = .ok value) :
    value.isWritable = true := by
  obtain ⟨each, long⟩ | ⟨n, plain, short⟩ | ⟨rest, rfl⟩ | plain := piece_cases piece
  · rw [specifier_of_overlong each long] at handed
    cases handed
  · rw [specifier_of_plain plain short] at handed
    cases handed
    exact plain.1.isWritable short
  · rw [specifier_of_starStep] at handed
    cases handed
    rfl
  · rw [specifier_of_plainPiece plain] at handed
    cases handed
    rfl

/-- A piece that is refused has no form, or holds a number with too many digits. -/
theorem refused_piece (solid : Text.IsSolid piece) (handed : specifier piece = .ok value)
    (spoiled : Rule.Spoils part path value error) :
    (error.breach? = none ∧ ∀ field, ¬Piece .digits part.domain piece field) ∨
      ∃ digits, error.breach? = some (.tooManyDigits digits) ∧ Overlong piece digits := by
  obtain told | ⟨-, long⟩ | ⟨s, digits, rfl, told, overlong⟩ := Rule.breach?_of_spoils spoiled
  · refine .inl ⟨told, fun field stands => ?_⟩
    -- A piece that has a form is read, unless a number in it is too long.
    by_cases short : ∀ digits, ¬Overlong piece digits
    · obtain ⟨again, known, read, suits⟩ := (read_specifier solid).mpr ⟨stands, short⟩
      cases handed.symm.trans known
      cases spoiled with
      | unread refused => cases read.symm.trans refused
      | unsuited other outside =>
        cases read.symm.trans other
        exact Bool.false_ne_true (outside.symm.trans suits)
    · obtain ⟨digits, overlong⟩ := not_forall_not.mp short
      have refusal := ofValue_of_overlong solid handed overlong
      cases spoiled with
      | unread refused =>
        cases refusal.symm.trans refused
        cases told
      | unsuited other => cases refusal.symm.trans other
  · rw [isWritable_of_specifier handed] at long
    cases long
  · exact .inr ⟨digits, told, overlong_of_text solid handed overlong⟩

end Pieces

section Columns

variable {part : Part} {path : String} {token text : List Char} {pieces : List (List Char)}
  {value : Value} {values : List Value} {error : CronError} {refusal : RuleError} {digits : Nat}

theorem overlong_of_specifiersOf (failed : specifiersOf pieces = .error error) :
    ∃ piece ∈ pieces, ∃ digits, error = .tooLong digits ∧ Overlong piece digits := by
  induction pieces with
  | nil => cases failed
  | cons piece rest ih =>
    simp only [specifiersOf] at failed
    cases first : specifier piece with
    | error refused =>
      rw [first] at failed
      cases failed
      obtain ⟨digits, same, overlong⟩ := overlong_of_specifier first
      exact ⟨piece, List.mem_cons_self, digits, same, overlong⟩
    | ok value =>
      rw [first] at failed
      cases later : specifiersOf rest with
      | ok values =>
        rw [later] at failed
        cases failed
      | error refused =>
        rw [later] at failed
        cases failed
        obtain ⟨other, member, known⟩ := ih later
        exact ⟨other, List.mem_cons_of_mem _ member, known⟩

/-- What comes in place of a report on a column: nothing, and then a piece of it has no form, or the
failure to read a number of it. -/
def Refuses (part : Part) (token : List Char) (breach? : Option Failure) : Prop :=
  (breach? = none ∧ ¬∀ piece ∈ Text.pieces ',' token,
    ∃ field, Piece (.glued (namesFor part)) part.domain piece field) ∨
  ∃ digits, breach? = some (.tooManyDigits digits) ∧ IsOverlongColumn part token digits

theorem unknownName_of_nameValue {names : Names} {run : List Char}
    (failed : nameValue names path run = .error error) : ∃ name, error = .unknownName name path := by
  simp only [nameValue] at failed
  split at failed <;> cases failed
  exact ⟨_, rfl⟩

theorem unknownName_of_replaceFrom {names : Names} {run : List Char}
    (failed : replaceFrom names path run text = .error error) :
    ∃ name, error = .unknownName name path := by
  induction text generalizing run with
  | nil =>
    rw [replaceFrom] at failed
    split at failed
    · cases failed
    · exact unknownName_of_nameValue failed
  | cons c rest ih =>
    rw [replaceFrom] at failed
    split at failed
    · exact ih failed
    · split at failed
      · exact ih (mapped_eq_error.mp failed)
      · split at failed
        next named =>
          cases failed
          exact unknownName_of_nameValue named
        next => exact ih (mapped_eq_error.mp failed)

/-- A column is refused before it is read where a piece of it has no form, or for a number in it. -/
theorem refuses_of_column (solid : Text.IsSolid token)
    (failed : column (namesFor part) part.name (String.ofList token) = .error error) :
    Refuses part token error.breach? := by
  simp only [column, String.toList_ofList, Text.strip_eq_self solid] at failed
  split at failed
  next refused named =>
    cases failed
    refine .inl ⟨?_, fun formed => ?_⟩
    · split at named
      · cases named
      · obtain ⟨name, rfl⟩ := unknownName_of_replaceFrom named
        rfl
    · obtain ⟨text, shown, -⟩ := forms_shown.mp formed
      cases named.symm.trans shown
  next text shown =>
    split at failed
    next gap =>
      cases failed
      refine .inl ⟨rfl, fun formed => ?_⟩
      obtain ⟨again, known, stand⟩ := forms_shown.mp formed
      cases known.unique shown
      obtain ⟨piece, member, empty⟩ := List.any_eq_true.mp gap
      obtain ⟨field, stands⟩ := stand piece member
      exact stands.numeric.1 (List.isEmpty_iff.mp empty)
    next =>
      cases known : specifiersOf (Text.pieces ',' text) with
      | ok items =>
        rw [specifiers, known] at failed
        cases failed
      | error refused =>
        rw [specifiers, known] at failed
        cases failed
        obtain ⟨piece, member, digits, rfl, overlong⟩ := overlong_of_specifiersOf known
        exact .inr ⟨digits, rfl, text, shown, piece, member, overlong⟩

theorem unsuited_of_spoils {numbers : List Int} (some : numbers ≠ [])
    (writable : ∀ n ∈ numbers, Text.isWritable n = true)
    (spoiled : Rule.Spoils part path (.list (numbers.map .int)) refusal) :
    refusal.breach? = none ∧ ∃ n ∈ numbers, (Field.exact n).valid part = false := by
  cases spoiled with
  | unread refused => cases (ofValue_numbers some).symm.trans refused
  | unsuited read outside =>
    cases (ofValue_numbers some).symm.trans read
    constructor
    · refine Value.breach?_eq_none (List.all_eq_true.mpr fun n member => ?_)
      exact writable n (Field.mem_withoutRepeats.mp member).1
    · rw [← Bool.not_eq_true, valid_alternation] at outside
      simpa using outside

theorem refuses_of_spoils (solid : Text.IsSolid token)
    (given : column (namesFor part) part.name (String.ofList token) = .ok values)
    (member : value ∈ values) (spoiled : Rule.Spoils part path value refusal) :
    Refuses part token refusal.breach? := by
  obtain ⟨text, shown, -, handed⟩ := (column_eq_ok solid).mp given
  obtain ⟨items, known⟩ := exists_specifiersOf handed
  have each := specifiersOf_eq_ok.mp known
  have visible := isSolid_of_shown solid shown
  have formless (piece : List Char) (inside : piece ∈ Text.pieces ',' text)
      (none : ∀ field, ¬Piece .digits part.domain piece field) :
      ¬∀ piece ∈ Text.pieces ',' token,
        ∃ field, Piece (.glued (namesFor part)) part.domain piece field := by
    intro formed
    obtain ⟨again, shownAgain, stand⟩ := forms_shown.mp formed
    cases shownAgain.unique shown
    obtain ⟨field, stands⟩ := stand piece inside
    exact none field stands
  obtain same | ⟨numbers, some, rfl, whole⟩ := specifiers_cases known
  · cases handed.symm.trans same
    obtain ⟨piece, inside, first⟩ := mem_of_forall₂ each member
    have solidPiece : Text.IsSolid piece :=
      fun c held => visible c (Text.mem_of_mem_pieces inside held)
    obtain ⟨told, none⟩ | ⟨digits, told, overlong⟩ := refused_piece solidPiece first spoiled
    · exact .inl ⟨told, formless piece inside none⟩
    · exact .inr ⟨digits, told, text, shown, piece, inside, overlong⟩
  · cases handed.symm.trans whole
    cases List.mem_singleton.mp member
    have handed (n : Int) (member : n ∈ numbers) :
        ∃ piece ∈ Text.pieces ',' text, specifier piece = .ok (.int n) := by
      obtain ⟨piece, inside, first⟩ := mem_of_forall₂ each (List.mem_map_of_mem member)
      exact ⟨piece, inside, first⟩
    have writable (n : Int) (member : n ∈ numbers) : Text.isWritable n = true := by
      obtain ⟨piece, -, first⟩ := handed n member
      exact isWritable_of_specifier first
    obtain ⟨told, n, inside, outside⟩ := unsuited_of_spoils some writable spoiled
    obtain ⟨piece, inside, first⟩ := handed n inside
    refine .inl ⟨told, formless piece inside fun field stands => ?_⟩
    have solidPiece : Text.IsSolid piece :=
      fun c held => visible c (Text.mem_of_mem_pieces inside held)
    have short (digits : Nat) (overlong : Overlong piece digits) : False := by
      cases ofValue_of_overlong solidPiece first overlong
    obtain ⟨_, known, read⟩ := (read_specifier solidPiece).mpr ⟨stands, short⟩
    cases first.symm.trans known
    exact Bool.false_ne_true (outside.symm.trans (reads_int.mp read).2)

end Columns

section Expressions

variable {expression : String} {parts : List Part} {tokens : List (List Char)}
  {given : List (Part × List Value)} {error : CronError} {refusal : RuleError}
  {breach? : Option Failure}

theorem column_of_columns (failed : columns parts tokens = .error error) :
    ∃ place ∈ parts.zip tokens,
      column (namesFor place.1) place.1.name (String.ofList place.2) = .error error := by
  induction parts generalizing tokens with
  | nil => cases tokens <;> cases failed
  | cons part parts ih =>
    cases tokens with
    | nil => cases failed
    | cons token tokens =>
      simp only [columns] at failed
      split at failed
      next refused =>
        cases failed
        exact ⟨(part, token), List.mem_cons_self, refused⟩
      next =>
        obtain ⟨place, member, refused⟩ := ih (mapped_eq_error.mp failed)
        exact ⟨place, List.mem_cons_of_mem _ member, refused⟩

theorem place_of_columns (read : columns parts tokens = .ok given) :
    ∀ entry ∈ given, ∃ token, (entry.1, token) ∈ parts.zip tokens ∧
      column (namesFor entry.1) entry.1.name (String.ofList token) = .ok entry.2 := by
  induction parts generalizing tokens given with
  | nil =>
    cases tokens <;> cases read <;> exact fun _ member => absurd member List.not_mem_nil
  | cons part parts ih =>
    cases tokens with
    | nil =>
      cases read
      exact fun _ member => absurd member List.not_mem_nil
    | cons token tokens =>
      obtain ⟨values, rest, first, others, rfl⟩ := columns_cons.mp read
      refine List.forall_mem_cons.mpr ⟨⟨token, List.mem_cons_self, first⟩, fun entry member => ?_⟩
      obtain ⟨other, place, known⟩ := ih others entry member
      exact ⟨other, List.mem_cons_of_mem _ place, known⟩

theorem spoils_of_columns (keys : given.map Prod.fst = columnParts)
    (some : ∀ entry ∈ given, entry.2 ≠ [])
    (failed : Rule.ofEntries "cron"
      (given.map fun (part, values) => (.text part.name, .list values)) = .error refusal) :
    ∃ entry ∈ given, ∃ item ∈ entry.2, ∃ path, Rule.Spoils entry.1 path item refusal := by
  let listed := given.map fun (part, values) => (part, Value.list values)
  have parts : listed.map Prod.fst = columnParts := by
    rw [← keys, List.map_map]
    rfl
  have distinct : (listed.map Prod.fst).Nodup := parts ▸ by decide
  have named := @Rule.namedParts_names "cron" _ [] distinct fun _ _ => List.not_mem_nil
  rw [List.map_map] at named
  simp only [Rule.ofEntries, show Rule.namedParts "cron" []
    (given.map fun (part, values) => (.text part.name, .list values)) = .ok listed from named]
    at failed
  obtain ⟨_, part, _, -, -, refused⟩ := Rule.fill_eq_error failed
  cases known : listed.lookup part with
  | none =>
    rw [Rule.fieldsOf_default known] at refused
    cases refused
  | some value =>
    obtain ⟨before, after, same, -⟩ := List.lookup_eq_some_iff.mp known
    have inside : (part, value) ∈ listed := same ▸ List.mem_append_right _ List.mem_cons_self
    obtain ⟨entry, member, made⟩ := List.mem_map.mp inside
    obtain ⟨rfl, rfl⟩ := Prod.mk.inj made
    have refused := Rule.refused_of_fieldsOf known refused
    generalize same : Value.list entry.2 = value at refused
    cases refused with
    | empty => exact absurd (Value.list.inj same) (some entry member)
    | item items _ spoiled =>
      rw [← same, Rule.itemsOf] at items
      refine ⟨entry, member, _, ?_, _, spoiled⟩
      exact items ▸ List.mem_append_right _ List.mem_cons_self

/-- What comes in place of a report on an expression: nothing, and then it does not conform to the
grammar, or the failure to read a number of it. -/
def RefusesExpression (expression : String) (breach? : Option Failure) : Prop :=
  (breach? = none ∧ ¬Conforms .glued expression) ∨
    ∃ digits, breach? = some (.tooManyDigits digits) ∧ IsOverlong expression digits

theorem Refuses.refusesExpression {place : Part × List Char}
    (refuses : Refuses place.1 place.2 breach?)
    (member : place ∈ columnParts.zip (Text.words expression.toList)) :
    RefusesExpression expression breach? := by
  refine refuses.imp (fun known => ⟨known.1, fun conforms => ?_⟩) ?_
  · exact known.2 ((List.forall₂_iff_zip.mp conforms).2 member)
  · rintro ⟨digits, told, overlong⟩
    exact ⟨digits, told, place, member, overlong⟩

theorem refuses_of_rule (failed : Cron.rule expression = .error error) :
    RefusesExpression expression error.breach? := by
  have solid {place : Part × List Char}
      (member : place ∈ columnParts.zip (Text.words expression.toList)) : Text.IsSolid place.2 :=
    (Text.solid_of_mem_words (List.of_mem_zip member).2).2
  simp only [Cron.rule] at failed
  split at failed
  next refused =>
    cases failed
    rw [columnsOf] at refused
    split at refused
    next =>
      obtain ⟨place, member, failed⟩ := column_of_columns refused
      exact (refuses_of_column (solid member) failed).refusesExpression member
    next short =>
      cases refused
      exact .inl ⟨rfl, fun conforms => short conforms.length_eq.symm⟩
  next values read =>
    split at failed
    next => cases failed
    next refused =>
      cases failed
      rw [columnsOf] at read
      split at read
      next long =>
        have places := place_of_columns read
        have some : ∀ entry ∈ values, entry.2 ≠ [] := by
          intro entry inside
          obtain ⟨token, member, given⟩ := places entry inside
          obtain ⟨text, -, -, handed⟩ := (column_eq_ok (solid member)).mp given
          exact specifiers_ne_nil (Text.pieces_ne_nil text) handed
        obtain ⟨entry, inside, item, held, path, spoiled⟩ :=
          spoils_of_columns (keys_of_columns long read) some refused
        obtain ⟨token, member, given⟩ := places entry inside
        exact (refuses_of_spoils (solid member) given held spoiled).refusesExpression member
      next => cases read

end Expressions

/-- Expressions that are read are those of the grammar with names glued to digits and without
numbers that have too many digits, and among these those in which names and digits are apart are
those of the grammar with whole names. Any other expression fails with an error of its own kind, or
with the failure to read a number. -/
theorem rule_accepts (expression : String) :
    ((∃ rule, Cron.rule expression = .ok rule) ↔
      Conforms .glued expression ∧ ∀ digits, ¬IsOverlong expression digits) ∧
    (Conforms .whole expression ↔ Conforms .glued expression ∧
      ∀ token ∈ Text.words expression.toList, IsApart token) ∧
    ((¬∃ rule, Cron.rule expression = .ok rule) → ∃ error, Cron.rule expression = .error error ∧
      (error.failure.kind = "CronError" ∧ ¬Conforms .glued expression ∨
        ∃ digits, error.failure = .tooManyDigits digits ∧ IsOverlong expression digits)) := by
  refine ⟨accepts_iff, conforms_whole, fun outside => ?_⟩
  cases read : Cron.rule expression with
  | ok rule => exact absurd ⟨rule, read⟩ outside
  | error error =>
    refine ⟨error, rfl, (refuses_of_rule read).imp (fun known => ⟨?_, known.2⟩) ?_⟩
    · rw [CronError.failure, known.1]
      rfl
    · rintro ⟨digits, told, overlong⟩
      exact ⟨digits, by rw [CronError.failure, told, Option.getD_some], overlong⟩

theorem rule_of_glued_name : ∃ rule, Cron.rule "0 0 * jan0 *" = .ok rule ∧ rule.month = [.exact 10] ∧
    ¬Conforms .whole "0 0 * jan0 *" := by
  refine ⟨_, rfl, rfl, fun conforms => ?_⟩
  have apart := (conforms_whole.mp conforms).2 ['j', 'a', 'n', '0'] (by decide)
  have touching : ¬Touches 'n' '0' := by
    simp only [IsApart, List.isChain_cons_cons] at apart
    exact apart.2.2.1
  exact touching (.inl (by decide))

end Cron

end Timetable
