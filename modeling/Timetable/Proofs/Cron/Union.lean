import Mathlib.Logic.Relation
import Timetable.Proofs.Cron.Grammar
import Timetable.Proofs.Rule.Generation

/-! Columns as unions of their pieces.

What a column asks for is what its pieces ask for, taken together. So it makes no difference in
which order they stand, whether one stands there twice, or how each of them is written.
-/

set_option autoImplicit false

namespace Timetable

namespace Cron

/-- Ways to write a piece differently: a star before its step, a number for a whole name, letters
in another case. -/
inductive Rewritten (names : Names) : List Char → List Char → Prop where
  | starred (rest : List Char) : Rewritten names ('/' :: rest) ('*' :: '/' :: rest)
  | numbered {left word right : List Char} {n : Nat} (known : IsName names word n)
      (before : ∀ c ∈ left.getLast?, isLetter c = false)
      (after : ∀ c ∈ right.head?, isLetter c = false) :
      Rewritten names (left ++ word ++ right) (left ++ Nat.toDigits 10 n ++ right)
  | recased {piece other : List Char} (same : piece.map Char.toLower = other.map Char.toLower) :
      Rewritten names piece other

/-- Ways to write a list of pieces differently: in another order, with one of them once more, or
with one of them rewritten. -/
inductive Reworded (names : Names) : List (List Char) → List (List Char) → Prop where
  | reordered {pieces others : List (List Char)} (perm : pieces.Perm others) :
      Reworded names pieces others
  | repeated {piece : List Char} {before after : List (List Char)}
      (member : piece ∈ before ++ after) :
      Reworded names (before ++ after) (before ++ piece :: after)
  | rewritten {piece other : List Char} {before after : List (List Char)}
      (rewritten : Rewritten names piece other) :
      Reworded names (before ++ piece :: after) (before ++ other :: after)

section Replacement

variable {names : Names} {text done other left right : List Char} {c : Char}

theorem Replaced.unique (plain : IsPlain names) (first : Replaced names text done)
    (second : Replaced names text other) : done = other := by
  have known : replaceNames names "" text = .ok done := (replaceNames_eq_ok plain).mpr first
  rw [(replaceNames_eq_ok plain).mpr second] at known
  exact (Except.ok.inj known).symm

theorem replaced_numbered {word : List Char} {n : Nat} (plain : IsPlain names)
    (known : IsName names word n) (before : ∀ c ∈ left.getLast?, isLetter c = false)
    (after : ∀ c ∈ right.head?, isLetter c = false) :
    Replaced names (left ++ word ++ right) done ↔
      Replaced names (left ++ Nat.toDigits 10 n ++ right) done := by
  have named := replaced_of_name plain known
  have numbered : Replaced names (Nat.toDigits 10 n) (Nat.toDigits 10 n) :=
    replaced_of_digits fun c => (Text.numeral_toDigits n).isDigit
  constructor
  · intro replaced
    obtain ⟨_, last, rfl, most, rest⟩ := replaced.parted (.inr after)
    obtain ⟨first, middle, rfl, start, met⟩ := most.parted (.inl before)
    rw [met.unique plain named]
    exact (start.joined numbered (.inl before)).joined rest (.inr after)
  · intro replaced
    obtain ⟨_, last, rfl, most, rest⟩ := replaced.parted (.inr after)
    obtain ⟨first, middle, rfl, start, met⟩ := most.parted (.inl before)
    rw [met.unique plain numbered]
    exact (start.joined named (.inl before)).joined rest (.inr after)

end Replacement

section Pieces

variable {part : Part} {piece other : List Char} {field another : Field}

theorem standsFor_rewritten (rewritten : Rewritten (namesFor part) piece other) :
    StandsFor part piece field ↔ StandsFor part other field := by
  cases rewritten with
  | starred rest =>
    have noStar : isLetter '*' = false := (Text.marks_spec '*' (by decide)).2.2
    have noSlash : isLetter '/' = false := (Text.marks_spec '/' (by decide)).2.2
    have same (digits : List Char) (count : Nat) :
        Overlong ('*' :: '/' :: digits) count ↔ Overlong ('/' :: digits) count := by
      rw [overlong_starred, overlong_of_plainPiece (plainPiece_step digits)]
    constructor
    · rintro ⟨done, replaced, stands, short⟩
      obtain ⟨digits, rfl, after⟩ := (replaced_cons noSlash).mp replaced
      exact ⟨_, .keep noStar replaced, piece_starred.mpr stands,
        fun count overlong => short count ((same digits count).mp overlong)⟩
    · rintro ⟨done, replaced, stands, short⟩
      obtain ⟨digits, rfl, after⟩ := (replaced_cons noStar).mp replaced
      obtain ⟨digits, rfl, -⟩ := (replaced_cons noSlash).mp after
      exact ⟨_, after, piece_starred.mp stands,
        fun count overlong => short count ((same digits count).mpr overlong)⟩
  | numbered known before after =>
    simp only [StandsFor, replaced_numbered (isPlain_namesFor part) known before after]
  | recased same =>
    exact exists_congr fun done => and_congr_left' ⟨(·.recased same), (·.recased same.symm)⟩

theorem StandsFor.unique (first : StandsFor part piece field)
    (second : StandsFor part piece another) : field = another := by
  obtain ⟨done, replaced, known⟩ := first
  obtain ⟨again, replacedAgain, knownAgain⟩ := second
  cases replaced.unique (isPlain_namesFor part) replacedAgain
  have solid := isSolid_of_numeric fun c member => (known.1.numeric.2 c member).1
  obtain ⟨value, handed, read⟩ := (read_specifier solid).mpr known
  obtain ⟨_, handedAgain, readAgain⟩ := (read_specifier solid).mpr knownAgain
  cases handed.symm.trans handedAgain
  exact Except.ok.inj (read.1.symm.trans readAgain.1)

theorem StandsFor.valid (stands : StandsFor part piece field) : field.valid part = true := by
  obtain ⟨done, -, stands, -⟩ := stands
  exact valid_of_piece stands

theorem StandsFor.ne_nil (stands : StandsFor part piece field) : piece ≠ [] := by
  rintro rfl
  obtain ⟨done, replaced, stands, -⟩ := stands
  exact stands.numeric.1 (replaced_nil.mp replaced)

end Pieces

structure Agree (part : Part) (pieces others : List (List Char)) : Prop where
  readable : (∀ piece ∈ pieces, ∃ field, StandsFor part piece field) ↔
    ∀ piece ∈ others, ∃ field, StandsFor part piece field
  fields : ∀ field, (∃ piece ∈ pieces, StandsFor part piece field) ↔
    ∃ piece ∈ others, StandsFor part piece field

section Lists

variable {part : Part} {pieces others : List (List Char)}

theorem Agree.of_mem (same : ∀ piece, piece ∈ pieces ↔ piece ∈ others) :
    Agree part pieces others where
  readable := forall_congr' fun piece => imp_congr_left (same piece)
  fields _ := exists_congr fun piece => and_congr_left' (same piece)

theorem agree_of_reworded (reworded : Reworded (namesFor part) pieces others) :
    Agree part pieces others := by
  cases reworded with
  | reordered perm => exact .of_mem fun piece => perm.mem_iff
  | @repeated again before after member =>
    refine .of_mem fun piece => ?_
    rw [List.mem_append, List.mem_append, List.mem_cons, or_left_comm, ← List.mem_append]
    exact ⟨.inr, fun known => known.elim (fun same => same ▸ member) id⟩
  | @rewritten piece other before after rewritten =>
    have same (field : Field) : StandsFor part piece field ↔ StandsFor part other field :=
      standsFor_rewritten rewritten
    constructor
    · simp only [List.forall_mem_append, List.forall_mem_cons, same]
    · intro field
      simp only [List.mem_append, List.mem_cons, or_and_right, exists_or, exists_eq_left, same]

theorem agree_of_eqvGen (reworded : Relation.EqvGen (Reworded (namesFor part)) pieces others) :
    Agree part pieces others := by
  induction reworded with
  | rel pieces others reworded => exact agree_of_reworded reworded
  | refl pieces => exact .of_mem fun _ => Iff.rfl
  | symm pieces others _ ih => exact ⟨ih.readable.symm, fun field => (ih.fields field).symm⟩
  | trans pieces between others _ _ left right =>
    exact ⟨left.readable.trans right.readable,
      fun field => (left.fields field).trans (right.fields field)⟩

end Lists

section Columns

variable {part : Part} {token other : List Char} {fields others atoms : List Field} {field : Field}
  {pieces : List (List Char)} {value : Int}

theorem anyMatches_iff (suit : ∀ field ∈ fields, field.valid part = true) :
    Rule.anyMatches value fields = .ok true ↔
      ∃ field ∈ fields, field.matchesValue value = .ok true := by
  induction fields with
  | nil => simp [Rule.anyMatches]
  | cons field rest ih =>
    obtain ⟨first, others⟩ := List.forall_mem_cons.mp suit
    obtain ⟨matched, known⟩ := Field.matchesValue_spec first value
    cases matched <;> simp [Rule.anyMatches, known, ih others]

theorem ColumnReads.unique (left : ColumnReads part token fields)
    (right : ColumnReads part token others) : fields = others := by
  obtain ⟨values, known, -, read⟩ := left
  obtain ⟨again, knownAgain, -, readAgain⟩ := right
  rw [known] at knownAgain
  cases knownAgain
  have unique : Relator.RightUnique (Rule.Reads part) := by
    intro item field another first second
    have same := first.1
    rw [second.1] at same
    exact (Except.ok.inj same).symm
  exact List.right_unique_forall₂' unique read readAgain

theorem ColumnReads.exists_atoms (solid : Text.IsSolid token)
    (read : ColumnReads part token fields) :
    ∃ atoms, List.Forall₂ (StandsFor part) (Text.pieces ',' token) atoms ∧
      Gathered atoms fields := by
  obtain ⟨atoms, stand⟩ := pieces_of_columnReads solid read
  obtain ⟨again, readAgain, gathered⟩ := columnReads_of_pieces solid stand
  cases read.unique readAgain
  exact ⟨atoms, stand, gathered⟩

theorem mem_atoms (stand : List.Forall₂ (StandsFor part) pieces atoms) :
    field ∈ atoms ↔ ∃ piece ∈ pieces, StandsFor part piece field := by
  refine ⟨mem_of_forall₂ stand, ?_⟩
  rintro ⟨piece, member, stands⟩
  obtain ⟨atom, inside, known⟩ := mem_of_forall₂ stand.flip member
  exact stands.unique known ▸ inside

theorem valid_of_atoms (stand : List.Forall₂ (StandsFor part) pieces atoms) :
    ∀ field ∈ atoms, field.valid part = true := by
  intro field member
  obtain ⟨piece, -, stands⟩ := (mem_atoms stand).mp member
  exact stands.valid

theorem ColumnReads.matches_iff (solid : Text.IsSolid token)
    (read : ColumnReads part token fields) :
    Rule.anyMatches value fields = .ok true ↔ ∃ piece ∈ Text.pieces ',' token,
      ∃ field, StandsFor part piece field ∧ field.matchesValue value = .ok true := by
  obtain ⟨atoms, stand, gathered⟩ := read.exists_atoms solid
  rw [matched_of_gathered gathered, anyMatches_iff (valid_of_atoms stand)]
  constructor
  · rintro ⟨field, member, matched⟩
    obtain ⟨piece, inside, stands⟩ := (mem_atoms stand).mp member
    exact ⟨piece, inside, field, stands, matched⟩
  · rintro ⟨piece, inside, field, stands, matched⟩
    exact ⟨field, (mem_atoms stand).mpr ⟨piece, inside, stands⟩, matched⟩

theorem ColumnReads.generates_iff (solid : Text.IsSolid token)
    (read : ColumnReads part token fields) :
    ∃ values, (Rule.generated part fields).map (·.foldr Rule.insertIncreasing []) = .ok values ∧
      values.Pairwise (· < ·) ∧ ∀ value, value ∈ values ↔ ∃ piece ∈ Text.pieces ',' token,
        ∃ field, StandsFor part piece field ∧
          ∃ own, field.values part = .ok own ∧ value ∈ own := by
  obtain ⟨atoms, stand, gathered⟩ := read.exists_atoms solid
  obtain ⟨values, known, -⟩ := Rule.generated_spec (valid_of_atoms stand)
  refine ⟨_, by rw [candidates_of_gathered gathered, known]; rfl,
    Rule.pairwise_foldr_insertIncreasing, fun value => ?_⟩
  rw [Rule.mem_foldr_insertIncreasing, Rule.mem_generated known]
  constructor
  · rintro ⟨field, member, made⟩
    obtain ⟨piece, inside, stands⟩ := (mem_atoms stand).mp member
    exact ⟨piece, inside, field, stands, made⟩
  · rintro ⟨piece, inside, field, stands, made⟩
    exact ⟨field, (mem_atoms stand).mpr ⟨piece, inside, stands⟩, made⟩

end Columns

section Places

variable {α β : Type} {R : α → β → Prop} {as : List α} {bs : List β} {i : Nat} {a : α} {b c : β}

theorem forall₂_getElem? (each : List.Forall₂ R as bs) (left : as[i]? = some a)
    (right : bs[i]? = some b) : R a b := by
  induction each generalizing i with
  | nil => cases left
  | cons first _ ih =>
    cases i with
    | zero =>
      cases left
      cases right
      exact first
    | succ i => exact ih left right

theorem forall₂_set (each : List.Forall₂ R as bs) (left : as[i]? = some a) (new : R a c) :
    List.Forall₂ R as (bs.set i c) := by
  induction each generalizing i with
  | nil => cases left
  | cons first others ih =>
    cases i with
    | zero =>
      cases left
      exact .cons new others
    | succ i => exact .cons first (ih left)

theorem forall₂_set_congr (left : as[i]? = some a) (right : bs[i]? = some b)
    (same : R a b ↔ R a c) : List.Forall₂ R as bs ↔ List.Forall₂ R as (bs.set i c) := by
  obtain ⟨bound, known⟩ := List.getElem?_eq_some_iff.mp right
  constructor
  · intro each
    exact forall₂_set each left (same.mp (forall₂_getElem? each left right))
  · intro each
    have new := forall₂_getElem? each left (List.getElem?_set_self bound)
    have back := forall₂_set each left (same.mpr new)
    rwa [List.set_set, ← known, List.set_getElem_self] at back

end Places

section Expressions

variable {expression other : String} {i : Nat} {part : Part} {token reworded piece : List Char}
  {rule again single : Rule} {value : Int}

theorem columnReads_of_rule (read : Cron.rule expression = .ok rule)
    (column : columnParts[i]? = some part)
    (place : (Text.words expression.toList)[i]? = some token) :
    Text.IsSolid token ∧ ColumnReads part token (rule.get part) := by
  have columns := (rule_eq_ok.mp read).1
  have given := forall₂_getElem? columns column place
  exact ⟨(Text.solid_of_mem_words (List.mem_of_getElem? place)).2, given⟩

/-- Where expressions differ in one column only, so do their rules. -/
theorem get_elsewhere (read : Cron.rule expression = .ok rule)
    (readAgain : Cron.rule other = .ok again) (column : columnParts[i]? = some part)
    (words : Text.words other.toList = (Text.words expression.toList).set i reworded)
    {elsewhere : Part} (different : elsewhere ≠ part) :
    again.get elsewhere = rule.get elsewhere := by
  obtain ⟨columns, default⟩ := rule_eq_ok.mp read
  obtain ⟨columnsAgain, defaultAgain⟩ := rule_eq_ok.mp readAgain
  by_cases listed : elsewhere ∈ columnParts
  · obtain ⟨j, found⟩ := List.mem_iff_getElem?.mp listed
    have apart : i ≠ j := by
      rintro rfl
      rw [found] at column
      exact different (Option.some.inj column)
    have bound : j < (Text.words expression.toList).length := by
      rw [← columns.length_eq]
      exact (List.getElem?_eq_some_iff.mp found).1
    have place := List.getElem?_eq_getElem bound
    have placeAgain := place
    rw [← List.getElem?_set_ne apart, ← words] at placeAgain
    have first := forall₂_getElem? columns found place
    have second := forall₂_getElem? columnsAgain found placeAgain
    exact second.unique first
  · rw [default _ listed, defaultAgain _ listed]

theorem place_set (place : (Text.words expression.toList)[i]? = some token)
    (words : Text.words other.toList = (Text.words expression.toList).set i reworded) :
    (Text.words other.toList)[i]? = some reworded := by
  rw [words]
  exact List.getElem?_set_self (List.getElem?_eq_some_iff.mp place).1

theorem alike_of_agree (read : Cron.rule expression = .ok rule)
    (readAgain : Cron.rule other = .ok again) (column : columnParts[i]? = some part)
    (place : (Text.words expression.toList)[i]? = some token)
    (words : Text.words other.toList = (Text.words expression.toList).set i reworded)
    (agree : Agree part (Text.pieces ',' token) (Text.pieces ',' reworded)) : again.Alike rule := by
  obtain ⟨solid, first⟩ := columnReads_of_rule read column place
  obtain ⟨solidAgain, second⟩ := columnReads_of_rule readAgain column (place_set place words)
  have formed := Rule.isFormed_of_cron read
  have formedAgain := Rule.isFormed_of_cron readAgain
  have offered (holds : Field → Prop) :
      (∃ piece ∈ Text.pieces ',' token, ∃ field, StandsFor part piece field ∧ holds field) ↔
        ∃ piece ∈ Text.pieces ',' reworded, ∃ field, StandsFor part piece field ∧ holds field := by
    constructor
    · rintro ⟨piece, member, field, stands, holds⟩
      obtain ⟨piece, member, stands⟩ := (agree.fields field).mp ⟨piece, member, stands⟩
      exact ⟨piece, member, field, stands, holds⟩
    · rintro ⟨piece, member, field, stands, holds⟩
      obtain ⟨piece, member, stands⟩ := (agree.fields field).mpr ⟨piece, member, stands⟩
      exact ⟨piece, member, field, stands, holds⟩
  constructor
  · intro elsewhere _ value
    by_cases same : elsewhere = part
    · subst same
      have matched : Rule.anyMatches value (again.get elsewhere) = .ok true ↔
          Rule.anyMatches value (rule.get elsewhere) = .ok true := by
        rw [second.matches_iff solidAgain, first.matches_iff solid, offered]
      obtain ⟨left, known⟩ := Rule.anyMatches_spec value (formed elsewhere)
      obtain ⟨right, knownAgain⟩ := Rule.anyMatches_spec value (formedAgain elsewhere)
      rw [known, knownAgain, Except.ok.injEq, Except.ok.injEq, ← Bool.eq_iff_iff] at matched
      rw [known, knownAgain, matched]
    · rw [get_elsewhere read readAgain column words same]
  · intro elsewhere _
    by_cases same : elsewhere = part
    · subst same
      obtain ⟨values, known, increasing, made⟩ := first.generates_iff solid
      obtain ⟨valuesAgain, knownAgain, increasingAgain, madeAgain⟩ :=
        second.generates_iff solidAgain
      rw [Rule.candidates, Rule.candidates, known, knownAgain]
      refine congrArg Except.ok (increasingAgain.eq_of_mem_iff increasing fun value => ?_)
      rw [made, madeAgain, offered]
    · rw [Rule.candidates, Rule.candidates, get_elsewhere read readAgain column words same]

theorem accepted_congr (column : columnParts[i]? = some part)
    (place : (Text.words expression.toList)[i]? = some token)
    (words : Text.words other.toList = (Text.words expression.toList).set i reworded)
    (agree : Agree part (Text.pieces ',' token) (Text.pieces ',' reworded)) :
    (∃ rule, Cron.rule expression = .ok rule) ↔ ∃ rule, Cron.rule other = .ok rule := by
  rw [accepts_pieces, accepts_pieces, words]
  exact forall₂_set_congr column place agree.readable

/-- What the expression is read as with the piece alone in one of its columns. -/
def StandsAlone (expression : String) (i : Nat) (piece : List Char) (single : Rule) : Prop :=
  ∃ alone : String, Text.words alone.toList = (Text.words expression.toList).set i piece ∧
    Cron.rule alone = .ok single

theorem pieces_of_piece (member : piece ∈ Text.pieces ',' token) :
    Text.pieces ',' piece = [piece] := by
  have whole := Text.pieces_intercalate
    (List.forall_mem_singleton.mpr (Text.free_of_mem_pieces member)) (List.cons_ne_nil piece [])
  rwa [List.intercalate_singleton] at whole

theorem exists_standsAlone (read : Cron.rule expression = .ok rule)
    (column : columnParts[i]? = some part)
    (place : (Text.words expression.toList)[i]? = some token)
    (member : piece ∈ Text.pieces ',' token) : ∃ single, StandsAlone expression i piece single := by
  have conforms := accepts_pieces.mp ⟨rule, read⟩
  have stands := forall₂_getElem? conforms column place
  obtain ⟨field, known⟩ := stands piece member
  have solid := (Text.solid_of_mem_words (List.mem_of_getElem? place)).2
  have words : ∀ word ∈ (Text.words expression.toList).set i piece,
      word ≠ [] ∧ Text.IsSolid word := by
    intro word inside
    cases List.mem_or_eq_of_mem_set inside with
    | inl old => exact Text.solid_of_mem_words old
    | inr same =>
      subst same
      exact ⟨known.ne_nil, fun c inside => solid c (Text.mem_of_mem_pieces member inside)⟩
  let alone := String.ofList ([' '].intercalate ((Text.words expression.toList).set i piece))
  have parted : Text.words alone.toList = (Text.words expression.toList).set i piece := by
    rw [String.toList_ofList, Text.words_intercalate words]
  obtain ⟨single, readAlone⟩ : ∃ single, Cron.rule alone = .ok single := by
    rw [accepts_pieces, parted]
    refine forall₂_set conforms column ?_
    rw [pieces_of_piece member]
    exact List.forall_mem_singleton.mpr ⟨field, known⟩
  exact ⟨single, alone, parted, readAlone⟩

theorem StandsAlone.columnReads (alone : StandsAlone expression i piece single)
    (column : columnParts[i]? = some part)
    (place : (Text.words expression.toList)[i]? = some token) :
    Text.IsSolid piece ∧ ColumnReads part piece (single.get part) := by
  obtain ⟨other, words, read⟩ := alone
  exact columnReads_of_rule read column (place_set place words)

theorem matches_union (read : Cron.rule expression = .ok rule)
    (column : columnParts[i]? = some part)
    (place : (Text.words expression.toList)[i]? = some token) :
    Rule.anyMatches value (rule.get part) = .ok true ↔ ∃ piece ∈ Text.pieces ',' token,
      ∃ single, StandsAlone expression i piece single ∧
        Rule.anyMatches value (single.get part) = .ok true := by
  obtain ⟨solid, columnRead⟩ := columnReads_of_rule read column place
  rw [columnRead.matches_iff solid]
  refine exists_congr fun piece => and_congr_right fun member => ?_
  constructor
  · intro matched
    obtain ⟨single, alone⟩ := exists_standsAlone read column place member
    obtain ⟨solidAlone, aloneRead⟩ := alone.columnReads column place
    refine ⟨single, alone, (aloneRead.matches_iff solidAlone).mpr ?_⟩
    rw [pieces_of_piece member]
    exact ⟨piece, List.mem_singleton_self piece, matched⟩
  · rintro ⟨single, alone, matched⟩
    obtain ⟨solidAlone, aloneRead⟩ := alone.columnReads column place
    rw [aloneRead.matches_iff solidAlone, pieces_of_piece member] at matched
    obtain ⟨only, inside, matched⟩ := matched
    exact List.mem_singleton.mp inside ▸ matched

theorem mem_candidates (read : Cron.rule expression = .ok rule)
    (column : columnParts[i]? = some part)
    (place : (Text.words expression.toList)[i]? = some token) :
    (∃ values, rule.candidates part = .ok values ∧ value ∈ values) ↔
      ∃ piece ∈ Text.pieces ',' token, ∃ field, StandsFor part piece field ∧
        ∃ own, field.values part = .ok own ∧ value ∈ own := by
  obtain ⟨solid, columnRead⟩ := columnReads_of_rule read column place
  obtain ⟨values, known, -, made⟩ := columnRead.generates_iff solid
  rw [Rule.candidates, known, ← made]
  simp

theorem generates_union (read : Cron.rule expression = .ok rule)
    (column : columnParts[i]? = some part)
    (place : (Text.words expression.toList)[i]? = some token) :
    (∃ values, rule.candidates part = .ok values ∧ value ∈ values) ↔
      ∃ piece ∈ Text.pieces ',' token, ∃ single, StandsAlone expression i piece single ∧
        ∃ values, single.candidates part = .ok values ∧ value ∈ values := by
  rw [mem_candidates read column place]
  refine exists_congr fun piece => and_congr_right fun member => ?_
  have only {single : Rule} (alone : StandsAlone expression i piece single) :
      (∃ values, single.candidates part = .ok values ∧ value ∈ values) ↔
        ∃ field, StandsFor part piece field ∧ ∃ own, field.values part = .ok own ∧ value ∈ own := by
    obtain ⟨other, words, readAlone⟩ := alone
    rw [mem_candidates readAlone column (place_set place words), pieces_of_piece member]
    simp
  constructor
  · intro made
    obtain ⟨single, alone⟩ := exists_standsAlone read column place member
    exact ⟨single, alone, (only alone).mpr made⟩
  · rintro ⟨single, alone, made⟩
    exact (only alone).mp made

/-- However the pieces of a column are put in order, repeated and rewritten, the expression is read
or refused as before, and asks for the same dates and times of day. Of a column that is read, each
piece can stand alone, and the column matches or generates what one of these does. -/
theorem column_is_union (column : columnParts[i]? = some part)
    (place : (Text.words expression.toList)[i]? = some token) :
    (∀ (other : String) (reworded : List Char),
      Text.words other.toList = (Text.words expression.toList).set i reworded →
      Relation.EqvGen (Reworded (namesFor part)) (Text.pieces ',' token)
        (Text.pieces ',' reworded) →
      ((∃ rule, Cron.rule expression = .ok rule) ↔ ∃ rule, Cron.rule other = .ok rule) ∧
        ∀ rule again, Cron.rule expression = .ok rule → Cron.rule other = .ok again →
          (∀ date, again.matchesDate date = rule.matchesDate date) ∧
            ∀ time ∈ Part.ofTime, again.candidates time = rule.candidates time) ∧
    ∀ rule, Cron.rule expression = .ok rule →
      (∀ piece ∈ Text.pieces ',' token, ∃ single, StandsAlone expression i piece single) ∧
      ∀ value,
        (Rule.anyMatches value (rule.get part) = .ok true ↔ ∃ piece ∈ Text.pieces ',' token,
          ∃ single, StandsAlone expression i piece single ∧
            Rule.anyMatches value (single.get part) = .ok true) ∧
        ((∃ values, rule.candidates part = .ok values ∧ value ∈ values) ↔
          ∃ piece ∈ Text.pieces ',' token, ∃ single, StandsAlone expression i piece single ∧
            ∃ values, single.candidates part = .ok values ∧ value ∈ values) := by
  constructor
  · intro other reworded words same
    have agree := agree_of_eqvGen same
    refine ⟨accepted_congr column place words agree, fun rule again read readAgain => ?_⟩
    have alike := alike_of_agree read readAgain column place words agree
    exact ⟨alike.matchesDate, alike.generated⟩
  · intro rule read
    exact ⟨fun piece member => exists_standsAlone read column place member,
      fun value => ⟨matches_union read column place, generates_union read column place⟩⟩

/-- A month by name and by number, with a step that a star precedes and one month twice, is the
same column in another order. One of its pieces, the step, matches December. -/
theorem column_is_union_months :
    (∀ rule again, Cron.rule "0 0 * 1,FEB,/6 *" = .ok rule →
      Cron.rule "0 0 * */6,2,1,1 *" = .ok again →
        ∀ date, again.matchesDate date = rule.matchesDate date) ∧
    ∃ rule, Cron.rule "0 0 * 1,FEB,/6 *" = .ok rule ∧
      Rule.anyMatches 12 (rule.get .month) = .ok true ∧
      ∃ piece ∈ Text.pieces ',' "1,FEB,/6".toList, ∃ single,
        StandsAlone "0 0 * 1,FEB,/6 *" 3 piece single ∧
          Rule.anyMatches 12 (single.get .month) = .ok true := by
  have place : (Text.words "0 0 * 1,FEB,/6 *".toList)[3]? = some "1,FEB,/6".toList := by decide
  have column : columnParts[3]? = some .month := rfl
  obtain ⟨same, union⟩ := column_is_union column place
  have parted : Text.pieces ',' "1,FEB,/6".toList = [['1'], ['F', 'E', 'B'], ['/', '6']] := by
    decide
  have again : Text.pieces ',' "*/6,2,1,1".toList = [['*', '/', '6'], ['2'], ['1'], ['1']] := by
    decide
  constructor
  · refine fun rule other read readOther =>
      ((same "0 0 * */6,2,1,1 *" "*/6,2,1,1".toList (by decide) ?_).2 rule other read readOther).1
    rw [parted, again]
    have february : Rewritten monthNames ([] ++ ['F', 'E', 'B'] ++ [])
        ([] ++ Nat.toDigits 10 2 ++ []) := .numbered rfl (by simp) (by simp)
    refine .trans _ [['/', '6'], ['F', 'E', 'B'], ['1']] _ (.rel _ _ (.reordered (by decide))) ?_
    refine .trans _ [['*', '/', '6'], ['F', 'E', 'B'], ['1']] _ (.rel _ _ ?_) ?_
    · exact @Reworded.rewritten _ _ _ [] [['F', 'E', 'B'], ['1']] (.starred ['6'])
    refine .trans _ [['*', '/', '6'], ['2'], ['1']] _ (.rel _ _ ?_) (.rel _ _ ?_)
    · exact @Reworded.rewritten _ _ _ [['*', '/', '6']] [['1']] february
    · exact @Reworded.repeated _ ['1'] [['*', '/', '6'], ['2']] [['1']] (by decide)
  · exact ⟨_, rfl, rfl, ((union _ rfl).2 12).1.mp rfl⟩

end Expressions

end Cron

end Timetable
