import Timetable.Proofs.Cron.Column
import Timetable.Proofs.Rule.Alike

/-! Rules written as expressions.

The five columns of a rule, each of them the alternatives of a part parted by commas, are read as a
rule again. Alternations come apart into their members, which share the commas with the other
alternatives, and a column of plain numbers comes back as one alternation; what the rule asks for is
the same.
-/

set_option autoImplicit false

namespace Timetable

/-- No field stands ready made among the alternatives of a part. -/
def Value.IsLoose : Value → Prop
  | .mapping entries =>
    ∀ entry ∈ entries, ∀ item ∈ Rule.itemsOf entry.2, ∀ field, item ≠ .field field
  | _ => True

/-- The field can be written and read again: it has members, the ends of a range are in order, and
a shifted step has no more digits than are read. -/
def Field.IsWritten : Field → Prop
  | .alternation members => members ≠ []
  | .range start finish => start < finish
  | .shifted shift rep => Text.isWritable shift = true ∧ Text.isWritable rep = true
  | _ => True

section Loose

variable {item value : Value} {field : Field} {path : String} {rule : Rule} {part : Part}
  {entries : List (Value × Value)} {given : List (Part × Value)}

theorem withoutRepeats_ne_nil {members : List Int} (some : members ≠ []) :
    Field.withoutRepeats [] members ≠ [] := by
  cases members with
  | nil => exact absurd rfl some
  | cons n rest => exact List.cons_ne_nil _ _

theorem isWritten_of_alternationOf (read : Field.alternationOf value = .ok field) :
    field.IsWritten := by
  simp only [Field.alternationOf] at read
  split at read
  next => cases read
  next => cases read
  next items some _ =>
    obtain ⟨members, known, rfl⟩ := mapped_eq_ok.mp read
    -- Items that are read are as many as the members, so there are some.
    refine withoutRepeats_ne_nil fun none => ?_
    rw [none] at known
    cases items with
    | nil => exact some rfl
    | cons first rest =>
      cases first with
      | int n =>
        obtain ⟨_, -, never⟩ := mapped_eq_ok.mp known
        cases never
      | _ => cases known

theorem isWritten_of_rangeOf (read : Field.rangeOf (.mapping entries) = .ok field) :
    field.IsWritten := by
  obtain same | same | ⟨start, finish, -, -, same⟩ := Field.rangeOf_cases entries
  · cases same.symm.trans read
  · cases same.symm.trans read
  · rw [same, Field.orderedRange] at read
    split at read
    next => cases read
    next apart =>
      cases read
      exact Int.not_le.mp apart

/-- A value that is no field itself is read as a field that can be written. -/
theorem isWritten_of_item (loose : ∀ field, item ≠ .field field)
    (read : Field.ofValue item = .ok field) : field.IsWritten := by
  cases item with
  | field f => exact absurd rfl (loose f)
  | int n =>
    cases read
    trivial
  | mapping entries => exact isWritten_of_rangeOf read
  | list items | tuple items | set items | frozenSet items =>
    exact isWritten_of_alternationOf read
  | text s =>
    have writable := Field.isWritable_of_ofText read
    obtain ⟨spelled, -⟩ := Field.ofText_eq_ok.mp read
    generalize Text.strip s.toList = text at spelled
    cases spelled with
    | range before after ordered => exact Int.ofNat_lt.mpr ordered
    | shifted | shiftedBelow => exact Bool.and_eq_true_iff.mp writable
    | star | step => trivial
  | null | bool | float | bytes | rule => cases read

theorem isWritten_midnight (part : Part) : Rule.midnight.get part ≠ [] ∧
    ∀ field ∈ Rule.midnight.get part, field.IsWritten := by
  cases part <;> simp [Rule.midnight, Rule.get, Field.IsWritten]

theorem value_of_namedParts {seen : List Part}
    (named : Rule.namedParts path seen entries = .ok given) :
    ∀ entry ∈ given, ∃ key, (key, entry.2) ∈ entries := by
  induction entries generalizing seen given with
  | nil =>
    cases named
    exact fun _ member => absurd member List.not_mem_nil
  | cons entry rest ih =>
    obtain ⟨key, value⟩ := entry
    simp only [Rule.namedParts] at named
    split at named
    next => cases named
    next =>
      split at named
      next => cases named
      next =>
        obtain ⟨others, known, rfl⟩ := mapped_eq_ok.mp named
        refine List.forall_mem_cons.mpr ⟨⟨key, List.mem_cons_self⟩, fun entry member => ?_⟩
        obtain ⟨key, member⟩ := ih known entry member
        exact ⟨key, List.mem_cons_of_mem _ member⟩

/-- The alternatives of a rule that is read from loose values can be written, and there are some for
every part. -/
theorem isWritten_of_ofValue (loose : value.IsLoose) (read : Rule.ofValue value path = .ok rule)
    (part : Part) : rule.get part ≠ [] ∧ ∀ field ∈ rule.get part, field.IsWritten := by
  cases value with
  | null =>
    cases read
    exact isWritten_midnight part
  | mapping entries =>
    simp only [Rule.ofValue] at read
    cases named : Rule.namedParts path [] entries with
    | error error =>
      rw [Rule.ofEntries, named] at read
      cases read
    | ok given =>
      have fields := (Rule.ofEntries_eq_ok named).mp read part
      cases known : given.lookup part with
      | none =>
        rw [Rule.fieldsOf_default known, Except.ok.injEq] at fields
        exact fields ▸ isWritten_midnight part
      | some value =>
        obtain ⟨some, each⟩ := (Rule.fieldsOf_eq_ok known).mp fields
        obtain ⟨before, after, rfl, -⟩ := List.lookup_eq_some_iff.mp known
        obtain ⟨key, member⟩ := value_of_namedParts named (part, value)
          (List.mem_append_right _ List.mem_cons_self)
        refine ⟨fun none => ?_, fun field inside => ?_⟩
        · rw [none] at each
          exact some (List.forall₂_nil_right_iff.mp each)
        · obtain ⟨item, listed, read, -⟩ := mem_of_forall₂ each inside
          exact isWritten_of_item (loose _ member item listed) read
  | _ => cases read

end Loose

section Written

variable {part : Part} {field : Field} {fields : List Field} {n : Int}

theorem low_nonneg (part : Part) : 0 ≤ part.domain.low := by
  cases part <;> decide

theorem digits_of_contains (within : part.domain.contains n = true) :
    ∃ k : Nat, n = k ∧ (Text.ofInt n).toList = Nat.toDigits 10 k := by
  have least := (Domain.contains_iff.mp within).1
  obtain ⟨k, rfl⟩ := Int.eq_ofNat_of_zero_le (Int.le_trans (low_nonneg part) least)
  exact ⟨k, rfl, Text.toList_ofNat k⟩

theorem isWritable_of_contains (within : part.domain.contains n = true) :
    Text.isWritable n = true := by
  have most : part.domain.high < 10 ^ 3 := by cases part <;> decide
  obtain ⟨k, rfl, -⟩ := digits_of_contains within
  have few : (Nat.toDigits 10 k).length ≤ 3 :=
    Nat.toDigits_length 10 k 3 (by decide) (by
      have := (Domain.contains_iff.mp within).2
      omega)
  exact decide_eq_true (few.trans (by decide))

theorem isWritable_of_isWritten (suits : field.valid part = true) (written : field.IsWritten) :
    field.isWritable = true := by
  cases field with
  | exact n => exact isWritable_of_contains suits
  | alternation members =>
    exact List.all_eq_true.mpr fun n member =>
      isWritable_of_contains (List.all_eq_true.mp suits n member)
  | range start finish =>
    obtain ⟨least, greatest⟩ := Bool.and_eq_true_iff.mp suits
    exact Bool.and_eq_true_iff.mpr ⟨isWritable_of_contains least, isWritable_of_contains greatest⟩
  | star => rfl
  | repetition rep => exact isWritable_of_contains (Bool.and_eq_true_iff.mp suits).2
  | shifted shift rep => exact Bool.and_eq_true_iff.mpr written

/-- The text of a field that is no alternation is a piece that stands for it. -/
theorem piece_text (suits : field.valid part = true) (written : field.IsWritten)
    (single : ∀ members, field ≠ .alternation members) :
    Cron.Piece .digits part.domain field.text.toList field := by
  cases field with
  | alternation members => exact absurd rfl (single members)
  | star => exact .star
  | exact n =>
    obtain ⟨k, rfl, digits⟩ := digits_of_contains suits
    rw [Field.text, digits]
    exact .exact (Text.plainNumeral_toDigits k) suits
  | range start finish =>
    obtain ⟨least, greatest⟩ := Bool.and_eq_true_iff.mp suits
    obtain ⟨first, rfl, before⟩ := digits_of_contains least
    obtain ⟨last, rfl, after⟩ := digits_of_contains greatest
    rw [Field.text, String.toList_append, String.toList_append, before, after, List.append_assoc]
    exact .range (Text.numeral_toDigits first) (Text.numeral_toDigits last) (Int.ofNat_lt.mp written)
      least greatest
  | repetition rep =>
    obtain ⟨positive, within⟩ := Bool.and_eq_true_iff.mp suits
    obtain ⟨step, rfl, digits⟩ := digits_of_contains within
    rw [Field.text, String.toList_append, digits]
    exact .step (Text.numeral_toDigits step) (Int.natCast_pos.mp (of_decide_eq_true positive)) within
  | shifted shift rep =>
    obtain ⟨positive, within⟩ := Bool.and_eq_true_iff.mp suits
    have positive := of_decide_eq_true positive
    obtain ⟨step, rfl⟩ := Int.eq_ofNat_of_zero_le (Int.le_of_lt positive)
    -- The step alone need not be a value of the part, only the step from the shift on.
    have digits : (Text.ofInt (step : Int)).toList = Nat.toDigits 10 step := Text.toList_ofNat step
    rw [Field.text, String.toList_append, String.toList_append, digits, List.append_assoc]
    cases shift with
    | ofNat n =>
      have before : (Text.ofInt (Int.ofNat n)).toList = Nat.toDigits 10 n := Text.toList_ofNat n
      rw [before]
      exact .shifted (Text.numeral_toDigits n) (Text.numeral_toDigits step)
        (Int.natCast_pos.mp positive) within
    | negSucc n =>
      have before : (Text.ofInt (Int.negSucc n)).toList = '-' :: Nat.toDigits 10 (n + 1) := by
        rw [Text.ofInt, String.toList_append, Text.toList_ofNat]
        rfl
      have below : Int.negSucc n = -((n + 1 : Nat) : Int) := rfl
      rw [before]
      rw [below] at within ⊢
      exact .shiftedBelow (Text.numeral_toDigits (n + 1)) (Text.numeral_toDigits step)
        (Int.natCast_pos.mp positive) within

theorem not_overlong_of_ofText (mark : Char) (known : mark ∈ ['*', '/', '-', ','])
    (member : mark ∈ field.text.toList) (plain : ∀ rest, field.text.toList ≠ '*' :: '/' :: rest)
    (solid : Text.IsSolid field.text.toList) (read : Field.ofText field.text = .ok field)
    (digits : Nat) : ¬Cron.Overlong field.text.toList digits := by
  have short := Field.not_overlong_of_ofText read digits
  rw [Text.strip_eq_self solid] at short
  rwa [Cron.overlong_of_plainPiece
    ⟨Text.not_allAre_plain member (Text.marks_spec mark known).1, plain⟩]

theorem short_text (suits : field.valid part = true) (written : field.IsWritten)
    (single : ∀ members, field ≠ .alternation members) (digits : Nat) :
    ¬Cron.Overlong field.text.toList digits := by
  have stands := piece_text suits written single
  have solid := Cron.isSolid_of_numeric fun c member => (stands.numeric.2 c member).1
  have starless (other : ∀ rep, field ≠ .repetition rep) (rest : List Char) :
      field.text.toList ≠ '*' :: '/' :: rest := by
    intro same
    rw [same] at stands
    obtain ⟨rep, -, -, -, known⟩ := Cron.step_of_piece (Cron.piece_starred.mp stands)
    exact other rep known
  cases field with
  | alternation members => exact absurd rfl (single members)
  | exact n =>
    intro overlong
    obtain ⟨k, rfl, same⟩ := digits_of_contains suits
    rw [Field.text, same] at overlong
    have long := Cron.long_of_overlong (Text.plainNumeral_toDigits k) overlong
    exact Nat.not_lt_of_le (of_decide_eq_true (isWritable_of_contains suits)) long
  | star =>
    exact not_overlong_of_ofText '*' (by decide) (by decide) (starless (by simp)) solid rfl digits
  | range start finish =>
    obtain ⟨least, greatest⟩ := Bool.and_eq_true_iff.mp suits
    obtain ⟨first, rfl, -⟩ := digits_of_contains least
    obtain ⟨last, rfl, -⟩ := digits_of_contains greatest
    exact not_overlong_of_ofText '-' (by decide) (by simp [Field.text])
      (starless (by simp)) solid (Field.ofText_text_range (Int.ofNat_lt.mp written)
        (isWritable_of_contains least) (isWritable_of_contains greatest)) digits
  | repetition rep =>
    obtain ⟨positive, within⟩ := Bool.and_eq_true_iff.mp suits
    obtain ⟨step, rfl, -⟩ := digits_of_contains within
    exact not_overlong_of_ofText '/' (by decide) (by simp [Field.text])
      (by simp [Field.text]) solid (Field.ofText_text_repetition
        (Int.natCast_pos.mp (of_decide_eq_true positive)) (isWritable_of_contains within)) digits
  | shifted shift rep =>
    have positive := of_decide_eq_true (Bool.and_eq_true_iff.mp suits).1
    obtain ⟨step, rfl⟩ := Int.eq_ofNat_of_zero_le (Int.le_of_lt positive)
    exact not_overlong_of_ofText '/' (by decide) (by simp [Field.text])
      (starless (by simp)) solid
      (Field.ofText_text_shifted (Int.natCast_pos.mp positive) written.1 written.2) digits

theorem pieces_atoms (suits : field.valid part = true) (written : field.IsWritten) :
    ∀ atom ∈ field.atoms, Cron.Piece .digits part.domain atom.text.toList atom ∧
      ∀ digits, ¬Cron.Overlong atom.text.toList digits := by
  have stands {atom : Field} (suits : atom.valid part = true) (written : atom.IsWritten)
      (single : ∀ members, atom ≠ .alternation members) :
      Cron.Piece .digits part.domain atom.text.toList atom ∧
        ∀ digits, ¬Cron.Overlong atom.text.toList digits :=
    ⟨piece_text suits written single, short_text suits written single⟩
  cases field with
  | alternation members =>
    intro atom member
    obtain ⟨n, known, rfl⟩ := List.mem_map.mp member
    exact stands (List.all_eq_true.mp suits n known) trivial (by simp)
  | exact | range | star | repetition | shifted =>
    intro atom member
    cases List.mem_singleton.mp member
    exact stands suits written (by simp)

theorem atoms_ne_nil (written : field.IsWritten) : field.atoms ≠ [] := by
  cases field with
  | alternation members => exact fun none => written (List.map_eq_nil_iff.mp none)
  | _ => exact List.cons_ne_nil _ _

theorem text_atoms (field : Field) :
    field.text.toList = [','].intercalate (field.atoms.map fun atom => atom.text.toList) := by
  cases field with
  | alternation members =>
    rw [Field.text, String.toList_intercalate, Field.atoms, List.map_map, List.map_map]
    rfl
  | exact | range | star | repetition | shifted =>
    simp only [Field.atoms, List.map_singleton, List.intercalate_singleton]

end Written

def Rule.columnText (rule : Rule) (part : Part) : String :=
  ",".intercalate ((rule.get part).map Field.text)

def Rule.cronText (rule : Rule) : String :=
  " ".intercalate (Cron.columnParts.map rule.columnText)

section Columns

variable {rule again : Rule} {part : Part} {fields atoms : List Field}

theorem columnText_atoms (written : ∀ field ∈ rule.get part, field.IsWritten) :
    (rule.columnText part).toList =
      [','].intercalate (((rule.get part).flatMap Field.atoms).map fun atom => atom.text.toList) := by
  have some : ∀ group ∈ (rule.get part).map fun field => field.atoms.map fun atom => atom.text.toList,
      group ≠ [] := by
    intro group member
    obtain ⟨field, known, rfl⟩ := List.mem_map.mp member
    exact fun none => atoms_ne_nil (written field known) (List.map_eq_nil_iff.mp none)
  have texts : (rule.columnText part).toList =
      [','].intercalate ((rule.get part).map fun field => field.text.toList) := by
    rw [Rule.columnText, String.toList_intercalate, List.map_map]
    rfl
  rw [texts, List.map_flatMap, List.flatMap_def, ← Text.intercalate_flatten some, List.map_map]
  exact congrArg [','].intercalate (List.map_congr_left fun field _ => text_atoms field)

/-- Every piece of a column stands for a field that is no alternation, in order. -/
theorem pieces_columnText (some : rule.get part ≠ [])
    (suit : ∀ field ∈ rule.get part, field.valid part = true)
    (written : ∀ field ∈ rule.get part, field.IsWritten) :
    List.Forall₂ (fun piece atom => Cron.Piece .digits part.domain piece atom ∧
        ∀ digits, ¬Cron.Overlong piece digits)
      (Text.pieces ',' (rule.columnText part).toList) ((rule.get part).flatMap Field.atoms) := by
  have stand : ∀ atom ∈ (rule.get part).flatMap Field.atoms,
      Cron.Piece .digits part.domain atom.text.toList atom ∧
        ∀ digits, ¬Cron.Overlong atom.text.toList digits := by
    intro atom member
    obtain ⟨field, known, member⟩ := List.mem_flatMap.mp member
    exact pieces_atoms (suit field known) (written field known) atom member
  have filled : ((rule.get part).flatMap Field.atoms).map (fun atom => atom.text.toList) ≠ [] := by
    obtain ⟨field, known⟩ := List.exists_mem_of_ne_nil _ some
    obtain ⟨atom, member⟩ := List.exists_mem_of_ne_nil _ (atoms_ne_nil (written field known))
    exact List.ne_nil_of_mem (List.mem_map_of_mem (List.mem_flatMap.mpr ⟨field, known, member⟩))
  have free : ∀ text ∈ ((rule.get part).flatMap Field.atoms).map (fun atom => atom.text.toList),
      ',' ∉ text := by
    intro text member
    obtain ⟨atom, known, rfl⟩ := List.mem_map.mp member
    exact fun comma => ((stand atom known).1.numeric.2 ',' comma).2 rfl
  rw [columnText_atoms written, Text.pieces_intercalate free filled, List.forall₂_map_left_iff]
  exact List.forall₂_same.mpr stand

theorem solid_columnText (some : rule.get part ≠ [])
    (suit : ∀ field ∈ rule.get part, field.valid part = true)
    (written : ∀ field ∈ rule.get part, field.IsWritten) :
    (rule.columnText part).toList ≠ [] ∧ Text.IsSolid (rule.columnText part).toList := by
  have stand := pieces_columnText some suit written
  obtain ⟨each, numeric⟩ := Cron.numeric_of_pieces (stand.imp fun _ _ known => known.1)
  rw [Text.intercalate_pieces] at numeric
  refine ⟨fun none => ?_, Cron.isSolid_of_numeric numeric⟩
  rw [none] at each
  exact (each [] List.mem_cons_self).1 rfl

theorem contains_withoutRepeats (numbers : List Int) (value : Int) :
    (Field.withoutRepeats [] numbers).contains value = numbers.contains value := by
  rw [Bool.eq_iff_iff, List.contains_iff_mem, List.contains_iff_mem, Field.mem_withoutRepeats]
  exact and_iff_left List.not_mem_nil

theorem matched_of_gathered (gathered : Cron.Gathered atoms fields) (value : Int) :
    Rule.anyMatches value fields = Rule.anyMatches value atoms := by
  cases gathered with
  | each => rfl
  | whole numbers =>
    have exacts := Rule.anyMatches_exacts value numbers []
    rw [List.append_nil] at exacts
    simp only [exacts, Rule.anyMatches, Field.matchesValue, contains_withoutRepeats]
    cases numbers.contains value <;> rfl

theorem candidates_of_gathered (gathered : Cron.Gathered atoms fields) :
    (Rule.generated part fields).map (·.foldr Rule.insertIncreasing []) =
      (Rule.generated part atoms).map (·.foldr Rule.insertIncreasing []) := by
  cases gathered with
  | each => rfl
  | whole numbers =>
    have exacts := Rule.generated_exacts part numbers []
    rw [List.append_nil] at exacts
    rw [exacts]
    -- The alternation drops repeats, and so does putting the candidates in order.
    refine congrArg Except.ok (Rule.foldr_insertIncreasing_congr fun n => ?_)
    simp only [List.append_nil, Field.mem_withoutRepeats, List.not_mem_nil, not_false_eq_true,
      and_true]

theorem columnReads_columnText (some : rule.get part ≠ [])
    (suit : ∀ field ∈ rule.get part, field.valid part = true)
    (written : ∀ field ∈ rule.get part, field.IsWritten) :
    ∃ fields, Cron.ColumnReads part (rule.columnText part).toList fields ∧
      Cron.Gathered ((rule.get part).flatMap Field.atoms) fields := by
  have stand := pieces_columnText some suit written
  refine Cron.columnReads_of_pieces (solid_columnText some suit written).2 ?_
  refine stand.imp fun piece atom stands => ⟨piece, ?_, stands⟩
  exact Cron.replaced_self fun c member =>
    (Cron.toLower_of_isNumeric (stands.1.numeric.2 c member).1).2

end Columns

section Expressions

variable {rule again : Rule}

theorem words_cronText (solid : ∀ part ∈ Cron.columnParts,
      (rule.columnText part).toList ≠ [] ∧ Text.IsSolid (rule.columnText part).toList) :
    Text.words rule.cronText.toList =
      Cron.columnParts.map fun part => (rule.columnText part).toList := by
  have columns : rule.cronText.toList =
      [' '].intercalate (Cron.columnParts.map fun part => (rule.columnText part).toList) := by
    rw [Rule.cronText, String.toList_intercalate, List.map_map]
    rfl
  rw [columns]
  refine Text.words_intercalate fun token member => ?_
  obtain ⟨part, known, rfl⟩ := List.mem_map.mp member
  exact solid part known

theorem alike_of_gathered
    (gathered : ∀ part ∈ Cron.columnParts,
      Cron.Gathered ((rule.get part).flatMap Field.atoms) (again.get part))
    (others : ∀ part, part ∉ Cron.columnParts → again.get part = rule.get part) :
    again.Alike rule := by
  constructor
  · intro part _ value
    by_cases column : part ∈ Cron.columnParts
    · rw [matched_of_gathered (gathered part column), Rule.anyMatches_atoms]
    · rw [others part column]
  · intro part _
    rw [Rule.candidates, Rule.candidates]
    by_cases column : part ∈ Cron.columnParts
    · rw [candidates_of_gathered (gathered part column), Rule.generated_atoms]
    · rw [others part column]

end Expressions

/-- A rule read from loose values that leaves the day of the year and the week open and the second
at zero can be written as an expression. Read again, it matches the same dates, generates the same
times of day and has the same runs. -/
theorem Rule.cronText_read {value : Value} {path : String} {rule : Rule}
    (read : Rule.ofValue value path = .ok rule) (loose : value.IsLoose)
    (openYear : rule.dayOfYear = [.star]) (openWeek : rule.weekOfYear = [.star])
    (onMinute : rule.second = [.exact 0]) :
    ∃ again, Cron.rule rule.cronText = .ok again ∧
      (∀ date, again.matchesDate date = rule.matchesDate date) ∧
      (∀ part ∈ Part.ofTime, again.candidates part = rule.candidates part) ∧
      ∀ time horizon limit, again.runs time horizon limit = rule.runs time horizon limit := by
  have suit := Rule.isFormed_of_ofValue read
  have written := isWritten_of_ofValue loose read
  have columns : List.Forall₂ (fun part token => ∃ fields, Cron.ColumnReads part token fields ∧
        Cron.Gathered ((rule.get part).flatMap Field.atoms) fields) Cron.columnParts
      (Cron.columnParts.map fun part => (rule.columnText part).toList) :=
    List.forall₂_map_right_iff.mpr <| List.forall₂_same.mpr fun part _ =>
      columnReads_columnText (written part).1 (suit part) (written part).2
  obtain ⟨again, given, default⟩ := Cron.exists_rule (by decide) columns
  have words := @words_cronText rule fun part _ =>
    solid_columnText (written part).1 (suit part) (written part).2
  have reread : Cron.rule rule.cronText = .ok again :=
    Cron.rule_eq_ok.mpr ⟨words ▸ given.imp fun _ _ => And.left, default⟩
  -- What has no column is read as the default, which the rule has there by assumption.
  have others : ∀ part, part ∉ Cron.columnParts → again.get part = rule.get part := by
    intro part outside
    rw [default part outside]
    cases part with
    | dayOfYear => exact openYear.symm
    | weekOfYear => exact openWeek.symm
    | second => exact onMinute.symm
    | _ => exact absurd (by decide) outside
  have alike : again.Alike rule := alike_of_gathered (fun part column =>
    (List.forall₂_same.mp (List.forall₂_map_right_iff.mp given) part column).2) others
  exact ⟨again, reread, alike.matchesDate, alike.generated, alike.runs⟩

/-- Numbers alone and in an alternation share their commas; a shift below zero keeps its sign. -/
theorem Rule.cronText_read_mixed :
    let rule : Rule := { Rule.midnight with
      minute := [.exact 5, .alternation [10, 20]], hour := [.shifted (-2) 4], weekday := [.range 2 6] }
    rule.cronText = "5,10,20 -2/4 * * 2-6" ∧ ∃ again, Cron.rule rule.cronText = .ok again ∧
      (∀ date, again.matchesDate date = rule.matchesDate date) ∧
      (∀ part ∈ Part.ofTime, again.candidates part = rule.candidates part) ∧
      ∀ time horizon limit, again.runs time horizon limit = rule.runs time horizon limit := by
  refine ⟨by decide, Rule.cronText_read (show Rule.ofValue (.mapping [
    (.text "minute", .list [.int 5, .list [.int 10, .int 20]]),
    (.text "hour", .text "-2/4"),
    (.text "weekday", .mapping [(.text "from", .int 2), (.text "to", .int 6)])]) "rule" = _ from rfl)
      ?_ rfl rfl rfl⟩
  simp [Value.IsLoose, Rule.itemsOf]

end Timetable
