import Mathlib.Data.List.Pairwise
import Timetable.Proofs.Field.Refused
import Timetable.Proofs.Rule.Filled

/-! Which mappings are read as rules, and what the others are refused for.

A mapping is read exactly if its keys name parts, no part twice, and what is given for a part can be
read for it. Only what is looked up under a part matters: where the entries stand makes no
difference, neither to the rule nor to the error, which tells of the first part, in their fixed
order, whose value cannot be read.
-/

set_option autoImplicit false

namespace Timetable.Rule

/-- The key is a text that, without the blanks around it, in lower case and with its hyphens made
underscores, is the name of the part. -/
def Names (key : Value) (part : Part) : Prop :=
  ∃ s, key = .text s ∧
    (Text.lower (Text.strip s.toList)).map (fun c => if c = '-' then '_' else c) =
      part.name.toList

/-- Every item of the value is read as a field of the part, and there is one. -/
def Readable (part : Part) (value : Value) : Prop :=
  value ≠ .list [] ∧ ∀ item ∈ itemsOf value, ∃ field, Reads part item field

structure IsKeyed (entries : List (Value × Value)) : Prop where
  named : ∀ entry ∈ entries, ∃ part, Names entry.1 part
  apart : entries.Pairwise fun left right => ∀ part, Names left.1 part → ¬Names right.1 part

def itemPath (path : String) (part : Part) (index : Nat) : String :=
  path ++ "." ++ part.name ++ "[" ++ Text.ofNat index ++ "]"

inductive Spoils (part : Part) (path : String) (item : Value) : RuleError → Prop where
  | unread {error : FieldError} (refused : Field.ofValue item = .error error) :
      Spoils part path item (.field error path)
  | unsuited {field : Field} (read : Field.ofValue item = .ok field)
      (outside : field.valid part = false) : Spoils part path item (.outsideDomain field part path)

inductive Refused (part : Part) (path : String) : Value → RuleError → Prop where
  | empty : Refused part path (.list []) (.noFields part path)
  | item {value item : Value} {before after : List Value} {error : RuleError}
      (items : itemsOf value = before ++ item :: after)
      (sound : ∀ other ∈ before, ∃ field, Reads part other field)
      (spoiled : Spoils part (itemPath path part before.length) item error) :
      Refused part path value error

section Keys

variable {key value : Value} {part other : Part} {path : String}
  {entries others : List (Value × Value)} {given : List (Part × Value)} {seen : List Part}

theorem ofName?_eq_some {name : String} : Part.ofName? name = some part ↔ part.name = name := by
  constructor
  · intro found
    have same := List.find?_some found
    exact of_decide_eq_true same
  · rintro rfl
    exact Part.ofName?_name part

theorem ofKey_eq_ok : Part.ofKey key path = .ok part ↔ Names key part := by
  cases key with
  | text s =>
    simp only [Part.ofKey, Names, Value.text.injEq, exists_eq_left']
    generalize (Text.lower (Text.strip s.toList)).map (fun c => if c = '-' then '_' else c) = plain
    have named : plain = part.name.toList ↔ Part.ofName? (String.ofList plain) = some part := by
      rw [ofName?_eq_some, ← String.toList_inj, String.toList_ofList, eq_comm]
    rw [named]
    cases Part.ofName? (String.ofList plain) <;> simp
  | _ => simp [Part.ofKey, Names]

theorem Names.unique (left : Names key part) (right : Names key other) : part = other := by
  have known : Part.ofKey key "" = .ok part := ofKey_eq_ok.mpr left
  rw [ofKey_eq_ok.mpr right] at known
  exact (Except.ok.inj known).symm

/-- The entries that a mapping is read with stand for its own, in their order, under the parts that
the keys name. -/
theorem namedParts_eq_ok : namedParts path seen entries = .ok given ↔
    List.Forall₂ (fun entry known => Names entry.1 known.1 ∧ known.2 = entry.2) entries given ∧
      (given.map Prod.fst).Nodup ∧ ∀ part ∈ given.map Prod.fst, part ∉ seen := by
  induction entries generalizing seen given with
  | nil =>
    simp only [namedParts, Except.ok.injEq, List.forall₂_nil_left_iff]
    constructor
    · rintro rfl
      exact ⟨rfl, List.nodup_nil, fun _ member => absurd member List.not_mem_nil⟩
    · rintro ⟨rfl, -⟩
      rfl
  | cons entry rest ih =>
    obtain ⟨key, value⟩ := entry
    simp only [namedParts, List.forall₂_cons_left_iff]
    cases known : Part.ofKey key path with
    | error error =>
      constructor
      · rintro ⟨⟩
      · rintro ⟨⟨named, _, ⟨names, -⟩, -⟩, -⟩
        rw [ofKey_eq_ok.mpr names] at known
        cases known
    | ok part =>
      simp only
      by_cases again : part ∈ seen
      · rw [if_pos (List.contains_iff_mem.mpr again)]
        constructor
        · rintro ⟨⟩
        · rintro ⟨⟨named, _, ⟨names, -⟩, -, rfl⟩, -, fresh⟩
          have first := (List.forall_mem_cons.mp fresh).1
          exact absurd again (names.unique (ofKey_eq_ok.mp known) ▸ first)
      · rw [if_neg fun seen => again (List.contains_iff_mem.mp seen), mapped_eq_ok]
        constructor
        · rintro ⟨given, read, rfl⟩
          obtain ⟨each, distinct, fresh⟩ := ih.mp read
          refine ⟨⟨_, _, ⟨ofKey_eq_ok.mp known, rfl⟩, each, rfl⟩, ?_, ?_⟩
          · exact List.nodup_cons.mpr
              ⟨fun member => fresh part member List.mem_cons_self, distinct⟩
          · exact List.forall_mem_cons.mpr
              ⟨again, fun other member => List.not_mem_of_not_mem_cons (fresh other member)⟩
        · rintro ⟨⟨⟨named, item⟩, given, ⟨names, rfl⟩, each, rfl⟩, distinct, fresh⟩
          cases names.unique (ofKey_eq_ok.mp known)
          obtain ⟨alone, distinct⟩ := List.nodup_cons.mp distinct
          obtain ⟨-, fresh⟩ := List.forall_mem_cons.mp fresh
          refine ⟨given, ih.mpr ⟨each, distinct, fun other member => ?_⟩, rfl⟩
          rw [List.mem_cons, not_or]
          exact ⟨fun same => alone (same ▸ member), fresh other member⟩

theorem mem_of_named
    (each : List.Forall₂ (fun entry known => Names entry.1 known.1 ∧ known.2 = entry.2) entries
      given) :
    (part, value) ∈ given ↔ ∃ key, (key, value) ∈ entries ∧ Names key part := by
  induction each with
  | nil => simp
  | @cons entry known entries given first _ ih =>
    obtain ⟨key, held⟩ := entry
    obtain ⟨named, held'⟩ := known
    obtain ⟨names, rfl⟩ : Names key named ∧ held' = held := first
    rw [List.mem_cons, Prod.mk.injEq, ih]
    constructor
    · rintro (⟨rfl, rfl⟩ | ⟨key, member, names⟩)
      · exact ⟨key, List.mem_cons_self, names⟩
      · exact ⟨key, List.mem_cons_of_mem _ member, names⟩
    · rintro ⟨key, member, other⟩
      cases List.mem_cons.mp member with
      | inl same =>
        cases same
        exact .inl ⟨other.unique names, rfl⟩
      | inr later => exact .inr ⟨key, later, other⟩

theorem apart_iff_nodup
    (each : List.Forall₂ (fun entry known => Names entry.1 known.1 ∧ known.2 = entry.2) entries
      given) :
    (entries.Pairwise fun left right => ∀ part, Names left.1 part → ¬Names right.1 part) ↔
      (given.map Prod.fst).Nodup := by
  induction each with
  | nil => simp
  | @cons entry known entries given first others ih =>
    rw [List.pairwise_cons, List.map_cons, List.nodup_cons, ih]
    refine and_congr_left fun _ => ?_
    constructor
    · intro apart member
      obtain ⟨⟨part, value⟩, inside, same⟩ := List.mem_map.mp member
      obtain ⟨key, listed, names⟩ := (mem_of_named others).mp inside
      exact apart _ listed _ first.1 (same ▸ names)
    · intro alone entry listed part left right
      rw [left.unique first.1] at right
      have inside := (mem_of_named others).mpr ⟨entry.1, listed, right⟩
      exact alone (List.mem_map.mpr ⟨_, inside, rfl⟩)

theorem exists_namedParts : (∃ given, namedParts path [] entries = .ok given) ↔
    IsKeyed entries := by
  constructor
  · rintro ⟨given, read⟩
    obtain ⟨each, distinct, -⟩ := namedParts_eq_ok.mp read
    refine ⟨fun entry member => ?_, (apart_iff_nodup each).mpr distinct⟩
    obtain ⟨known, -, names, -⟩ := mem_of_forall₂ each.flip member
    exact ⟨known.1, names⟩
  · rintro ⟨named, apart⟩
    have each : ∀ entry ∈ entries, ∃ known : Part × Value,
        Names entry.1 known.1 ∧ known.2 = entry.2 := by
      intro entry member
      obtain ⟨part, names⟩ := named entry member
      exact ⟨(part, entry.2), names, rfl⟩
    obtain ⟨given, each⟩ := exists_forall₂.mpr each
    refine ⟨given, namedParts_eq_ok.mpr ⟨each, (apart_iff_nodup each).mp apart, ?_⟩⟩
    exact fun _ _ => List.not_mem_nil

theorem lookup_eq_some (read : namedParts path [] entries = .ok given) :
    given.lookup part = some value ↔ ∃ key, (key, value) ∈ entries ∧ Names key part := by
  obtain ⟨each, distinct, -⟩ := namedParts_eq_ok.mp read
  rw [← mem_of_named each]
  refine ⟨fun found => ?_, lookup_of_mem distinct⟩
  obtain ⟨before, after, rfl, -⟩ := List.lookup_eq_some_iff.mp found
  exact List.mem_append_right _ List.mem_cons_self

end Keys

section Values

variable {item value : Value} {part : Part} {path : String} {index : Nat} {items : List Value}
  {error : RuleError} {given other : List (Part × Value)} {parts : List Part} {rule : Rule}

theorem spoils_of_fieldFor (failed : fieldFor part path item = .error error) :
    Spoils part path item error := by
  simp only [fieldFor] at failed
  split at failed
  next unread =>
    cases failed
    exact .unread unread
  next read =>
    split at failed
    next => cases failed
    next outside =>
      cases failed
      exact .unsuited read (eq_false_of_ne_true outside)

/-- Items are read from the front, so those before the one that is refused were read. -/
theorem fieldsFrom_eq_error (failed : fieldsFrom part path index items = .error error) :
    ∃ before item after, items = before ++ item :: after ∧
      (∀ other ∈ before, ∃ field, Reads part other field) ∧
        Spoils part (itemPath path part (index + before.length)) item error := by
  induction items generalizing index with
  | nil => cases failed
  | cons item rest ih =>
    simp only [fieldsFrom] at failed
    cases known : fieldFor part (path ++ "." ++ part.name ++ "[" ++ Text.ofNat index ++ "]") item with
    | error refused =>
      rw [known] at failed
      cases failed
      exact ⟨[], item, rest, rfl, fun _ member => absurd member List.not_mem_nil,
        spoils_of_fieldFor known⟩
    | ok field =>
      rw [known] at failed
      cases later : fieldsFrom part path (index + 1) rest with
      | ok fields =>
        rw [later] at failed
        cases failed
      | error refused =>
        rw [later] at failed
        cases failed
        obtain ⟨before, spoiled, after, rfl, sound, spoils⟩ := ih later
        refine ⟨item :: before, spoiled, after, rfl,
          List.forall_mem_cons.mpr ⟨⟨field, fieldFor_eq_ok.mp known⟩, sound⟩, ?_⟩
        rwa [List.length_cons, ← Nat.add_assoc, Nat.add_right_comm]

theorem refused_of_fieldsOf (named : given.lookup part = some value)
    (failed : fieldsOf path given part = .error error) : Refused part path value error := by
  simp only [fieldsOf, named] at failed
  cases items : itemsOf value with
  | nil =>
    rw [items] at failed
    cases failed
    cases value with
    | list listed =>
      cases items
      exact .empty
    | _ => cases items
  | cons item rest =>
    rw [items] at failed
    obtain ⟨before, spoiled, after, parted, sound, spoils⟩ := fieldsFrom_eq_error failed
    rw [Nat.zero_add] at spoils
    exact .item (items.trans parted) sound spoils

theorem itemsOf_eq_nil : itemsOf value = [] ↔ value = .list [] := by
  cases value <;> simp [itemsOf]

theorem exists_fieldsOf : (∃ fields, fieldsOf path given part = .ok fields) ↔
    ∀ value, given.lookup part = some value → Readable part value := by
  cases named : given.lookup part with
  | none => simp [fieldsOf_default named]
  | some value =>
    simp only [Option.some.injEq, forall_eq', fieldsOf_eq_ok named, exists_and_left,
      exists_forall₂, Readable]
    rw [Ne, itemsOf_eq_nil]

theorem fill_congr (same : ∀ part, given.lookup part = other.lookup part) :
    fill path given rule parts = fill path other rule parts := by
  induction parts generalizing rule with
  | nil => rfl
  | cons part rest ih =>
    simp only [fill, fieldsOf, same part, ih]

/-- Parts are filled in from the front, so those before the one that is refused were filled in. -/
theorem fill_eq_error (failed : fill path given rule parts = .error error) :
    ∃ before part after, parts = before ++ part :: after ∧
      (∀ earlier ∈ before, ∃ fields, fieldsOf path given earlier = .ok fields) ∧
        fieldsOf path given part = .error error := by
  induction parts generalizing rule with
  | nil => cases failed
  | cons part rest ih =>
    simp only [fill] at failed
    cases known : fieldsOf path given part with
    | error refused =>
      rw [known] at failed
      cases failed
      exact ⟨[], part, rest, rfl, fun _ member => absurd member List.not_mem_nil, known⟩
    | ok fields =>
      rw [known] at failed
      obtain ⟨before, spoiled, after, rfl, sound, refused⟩ := ih failed
      exact ⟨part :: before, spoiled, after, rfl,
        List.forall_mem_cons.mpr ⟨⟨fields, known⟩, sound⟩, refused⟩

end Values

/-- A text that is to be read as a field holds a number with so many digits, too many to be read. -/
def HasOverlong (entries : List (Value × Value)) (digits : Nat) : Prop :=
  ∃ entry ∈ entries, ∃ s, .text s ∈ itemsOf entry.2 ∧ Field.Overlong (Text.strip s.toList) digits

section Breaches

variable {item value : Value} {part : Part} {path : String} {error : RuleError}
  {entries : List (Value × Value)} {seen : List Part}

theorem breach?_of_spoils (spoiled : Spoils part path item error) : error.breach? = none ∨
    error.breach? = some .unwritable ∧ item.isWritable = false ∨
      ∃ s digits, item = .text s ∧ error.breach? = some (.tooManyDigits digits) ∧
        Field.Overlong (Text.strip s.toList) digits := by
  cases spoiled with
  | unread refused => exact Field.breach?_of_ofValue refused
  | @unsuited field read _ =>
    refine (Value.field field).breach?_cases.imp_right fun known => .inl ⟨known.1, ?_⟩
    rw [← Bool.not_eq_true]
    intro writable
    exact Bool.false_ne_true (known.2.symm.trans (Field.isWritable_of_ofValue read writable))

theorem isWritable_of_itemsOf (writable : value.isWritable = true) (member : item ∈ itemsOf value) :
    item.isWritable = true := by
  cases value with
  | list items => exact Value.areWritable_iff.mp writable item member
  | _ => exact List.mem_singleton.mp member ▸ writable

theorem namedParts_eq_error (failed : namedParts path seen entries = .error error) :
    error.breach? = none ∨
      error.breach? = some .unwritable ∧ ∃ entry ∈ entries, entry.1.isWritable = false := by
  induction entries generalizing seen with
  | nil => cases failed
  | cons entry rest ih =>
    obtain ⟨key, value⟩ := entry
    simp only [namedParts] at failed
    split at failed
    next refusal refused =>
      cases failed
      cases key with
      | text s =>
        simp only [Part.ofKey] at refused
        split at refused
        · cases refused
        · cases refused
          exact .inl rfl
      | _ =>
        cases refused
        exact (Value.breach?_cases _).imp_right fun known =>
          ⟨known.1, _, List.mem_cons_self, known.2⟩
    next known =>
      split at failed
      · cases failed
        exact .inl rfl
      · cases later : namedParts path (_ :: seen) rest with
        | ok given =>
          rw [later] at failed
          cases failed
        | error refusal =>
          rw [later] at failed
          cases failed
          refine (ih later).imp_right ?_
          rintro ⟨told, entry, member, spoilt⟩
          exact ⟨told, entry, List.mem_cons_of_mem _ member, spoilt⟩

/-- A mapping is refused in the words of the library, unless an integer in it cannot be written or
a number in it cannot be read. -/
theorem breach?_of_ofEntries (failed : ofEntries path entries = .error error) :
    error.breach? = none ∨
      error.breach? = some .unwritable ∧ (Value.mapping entries).isWritable = false ∨
      ∃ digits, error.breach? = some (.tooManyDigits digits) ∧ HasOverlong entries digits := by
  have long {item : Value} (spoilt : item.isWritable = false)
      (inside : (Value.mapping entries).isWritable = true → item.isWritable = true) :
      (Value.mapping entries).isWritable = false := by
    rw [← Bool.not_eq_true]
    exact fun writable => Bool.false_ne_true (spoilt.symm.trans (inside writable))
  cases read : namedParts path [] entries with
  | error refusal =>
    rw [ofEntries, read] at failed
    cases failed
    refine (namedParts_eq_error read).imp_right ?_
    rintro ⟨told, entry, member, spoilt⟩
    refine .inl ⟨told, long spoilt fun writable => ?_⟩
    exact (Value.entriesWritable_iff.mp writable entry member).1
  | ok given =>
    rw [ofEntries, read] at failed
    obtain ⟨_, part, _, -, -, refused⟩ := fill_eq_error failed
    cases named : given.lookup part with
    | none =>
      rw [fieldsOf_default named] at refused
      cases refused
    | some value =>
      obtain ⟨key, member, -⟩ := (lookup_eq_some read).mp named
      cases refused_of_fieldsOf named refused with
      | empty => exact .inl rfl
      | @item _ item before after _ items _ spoiled =>
        have listed : item ∈ itemsOf value :=
          items ▸ List.mem_append_right _ List.mem_cons_self
        refine (breach?_of_spoils spoiled).imp_right ?_
        rintro (⟨told, unwritable⟩ | ⟨s, digits, rfl, told, overlong⟩)
        · refine .inl ⟨told, long unwritable fun writable => isWritable_of_itemsOf ?_ listed⟩
          exact (Value.entriesWritable_iff.mp writable _ member).2
        · exact .inr ⟨digits, told, _, member, s, listed, overlong⟩

end Breaches

section Mappings

variable {entries others : List (Value × Value)} {path : String} {error : RuleError} {rule : Rule}

/-- The error is that of the first part, in their order, for which a value is given that cannot be
read. -/
def FirstRefused (entries : List (Value × Value)) (path : String) (error : RuleError) : Prop :=
  ∃ before part after key value, Part.all = before ++ part :: after ∧
    (∀ earlier ∈ before, ∀ entry ∈ entries, Names entry.1 earlier → Readable earlier entry.2) ∧
      (key, value) ∈ entries ∧ Names key part ∧ Refused part path value error

theorem IsKeyed.perm (perm : entries.Perm others) (keyed : IsKeyed entries) : IsKeyed others where
  named entry member := keyed.named entry (perm.mem_iff.mpr member)
  apart := (perm.pairwise_iff fun apart part left right => apart part right left).mp keyed.apart

theorem ofEntries_perm (perm : entries.Perm others) (keyed : IsKeyed entries) :
    ofEntries path others = ofEntries path entries := by
  obtain ⟨given, read⟩ : ∃ given, namedParts path [] entries = .ok given :=
      exists_namedParts.mpr keyed
  obtain ⟨moved, readMoved⟩ : ∃ given, namedParts path [] others = .ok given :=
    exists_namedParts.mpr (keyed.perm perm)
  have same (part : Part) : moved.lookup part = given.lookup part := by
    refine Option.ext fun value => ?_
    simp only [lookup_eq_some read, lookup_eq_some readMoved, perm.mem_iff]
  simp only [ofEntries, read, readMoved]
  exact fill_congr same

theorem firstRefused_of_ofEntries (keyed : IsKeyed entries)
    (failed : ofEntries path entries = .error error) : FirstRefused entries path error := by
  obtain ⟨given, read⟩ : ∃ given, namedParts path [] entries = .ok given :=
      exists_namedParts.mpr keyed
  simp only [ofEntries, read] at failed
  obtain ⟨before, part, after, listed, sound, refused⟩ := fill_eq_error failed
  cases named : given.lookup part with
  | none =>
    rw [fieldsOf_default named] at refused
    cases refused
  | some value =>
    obtain ⟨key, member, names⟩ := (lookup_eq_some read).mp named
    refine ⟨before, part, after, key, value, listed, ?_, member, names,
      refused_of_fieldsOf named refused⟩
    intro earlier known entry inside names
    exact exists_fieldsOf.mp (sound earlier known) _
      ((lookup_eq_some read).mpr ⟨entry.1, inside, names⟩)

theorem exists_ofEntries : (∃ rule, ofEntries path entries = .ok rule) ↔ IsKeyed entries ∧
    ∀ entry ∈ entries, ∀ part, Names entry.1 part → Readable part entry.2 := by
  constructor
  · rintro ⟨rule, accepted⟩
    cases read : namedParts path [] entries with
    | error error =>
      rw [ofEntries, read] at accepted
      cases accepted
    | ok given =>
      refine ⟨exists_namedParts.mp ⟨given, read⟩, fun entry member part names => ?_⟩
      exact exists_fieldsOf.mp ⟨_, (ofEntries_eq_ok read).mp accepted part⟩ _
        ((lookup_eq_some read).mpr ⟨entry.1, member, names⟩)
  · rintro ⟨keyed, readable⟩
    obtain ⟨given, read⟩ : ∃ given, namedParts path [] entries = .ok given :=
      exists_namedParts.mpr keyed
    have each (part : Part) : ∃ fields, fieldsOf path given part = .ok fields := by
      refine exists_fieldsOf.mpr fun value named => ?_
      obtain ⟨key, member, names⟩ := (lookup_eq_some read).mp named
      exact readable _ member part names
    choose fields known using each
    refine ⟨ofParts fields, (ofEntries_eq_ok read).mpr fun part => ?_⟩
    rw [known, get_ofParts]

theorem get_of_ofEntries (accepted : ofEntries path entries = .ok rule) (part : Part) :
    (∀ entry ∈ entries, Names entry.1 part →
      List.Forall₂ (Reads part) (itemsOf entry.2) (rule.get part)) ∧
      ((∀ entry ∈ entries, ¬Names entry.1 part) → rule.get part = midnight.get part) := by
  cases read : namedParts path [] entries with
  | error error =>
    rw [ofEntries, read] at accepted
    cases accepted
  | ok given =>
    have known := (ofEntries_eq_ok read).mp accepted part
    constructor
    · intro entry member names
      have named := (lookup_eq_some read).mpr ⟨entry.1, member, names⟩
      exact ((fieldsOf_eq_ok named).mp known).2
    · intro unnamed
      have absent : given.lookup part = none := by
        refine Option.eq_none_iff_forall_not_mem.mpr fun value named => ?_
        obtain ⟨key, member, names⟩ := (lookup_eq_some read).mp named
        exact unnamed _ member names
      rw [fieldsOf_default absent] at known
      exact (Except.ok.inj known).symm

/-- A mapping is read exactly if its keys name different parts and the value of each can be read.
The rule then has the fields of its items for each part that is named, and the default ones for the
others. Any other mapping is refused in a report of the error, except that a number with too many
digits cannot be read, nor written in the report. Where only a value is at fault, the order of the
entries makes no difference, and the error tells of the first part that is refused. -/
theorem mapping_accepted (entries : List (Value × Value)) (path : String) :
    ((∃ rule, ofValue (.mapping entries) path = .ok rule) ↔ IsKeyed entries ∧
      ∀ entry ∈ entries, ∀ part, Names entry.1 part → Readable part entry.2) ∧
    (∀ rule, ofValue (.mapping entries) path = .ok rule → ∀ part,
      (∀ entry ∈ entries, Names entry.1 part →
        List.Forall₂ (Reads part) (itemsOf entry.2) (rule.get part)) ∧
      ((∀ entry ∈ entries, ¬Names entry.1 part) → rule.get part = midnight.get part)) ∧
    ((¬∃ rule, ofValue (.mapping entries) path = .ok rule) → ∃ error,
      ofValue (.mapping entries) path = .error error ∧ (error.failure.kind = "RuleError" ∨
        error.failure = .unwritable ∧ (Value.mapping entries).isWritable = false ∨
        ∃ digits, error.failure = .tooManyDigits digits ∧ HasOverlong entries digits)) ∧
    (IsKeyed entries → ∀ others, entries.Perm others →
      ofValue (.mapping others) path = ofValue (.mapping entries) path ∧
        ∀ error, ofValue (.mapping entries) path = .error error →
          FirstRefused entries path error) := by
  refine ⟨exists_ofEntries, fun rule accepted => get_of_ofEntries accepted, fun refused => ?_,
    fun keyed others perm => ?_⟩
  · cases read : ofValue (.mapping entries) path with
    | ok rule => exact absurd ⟨rule, read⟩ refused
    | error error =>
      refine ⟨error, rfl, ?_⟩
      have told {failure : Failure} (known : error.breach? = some failure) :
          error.failure = failure := by rw [RuleError.failure, known, Option.getD_some]
      obtain plain | ⟨known, unwritable⟩ | ⟨digits, known, overlong⟩ := breach?_of_ofEntries read
      · exact .inl (by rw [RuleError.failure, plain]; rfl)
      · exact .inr (.inl ⟨told known, unwritable⟩)
      · exact .inr (.inr ⟨digits, told known, overlong⟩)
  · exact ⟨ofEntries_perm perm keyed, fun error failed => firstRefused_of_ofEntries keyed failed⟩

/-- An hour named with a blank and a capital, beside a day, is taken and leaves the minute as it is
by default; a number is no key. Of two values that are refused, the month is told of, whichever
entry comes first. -/
theorem mapping_accepted_hours :
    (∃ rule, ofValue (.mapping [(.text " Hour", .list [.int 1, .text "/6"]),
        (.text "DAY-of-month", .int 31)]) "rule" = .ok rule ∧
      List.Forall₂ (Reads .hour) [.int 1, .text "/6"] (rule.get .hour) ∧
        rule.get .minute = [.exact 0]) ∧
    (∃ error, ofValue (.mapping [(.int 1, .int 1)]) "rule" = .error error ∧
      error.failure.kind = "RuleError") ∧
    ofValue (.mapping [(.text "MONTH", .list [.int 12, .int 13]), (.text "second", .int 60)]) "rule" =
      ofValue (.mapping [(.text "second", .int 60), (.text "MONTH", .list [.int 12, .int 13])])
        "rule" ∧
    FirstRefused [(.text "second", .int 60), (.text "MONTH", .list [.int 12, .int 13])] "rule"
      (.outsideDomain (.exact 13) .month "rule.month[1]") := by
  obtain ⟨-, taken, -⟩ := mapping_accepted [(.text " Hour", .list [.int 1, .text "/6"]),
    (.text "DAY-of-month", .int 31)] "rule"
  obtain ⟨-, -, refused, -⟩ := mapping_accepted [(.int 1, .int 1)] "rule"
  obtain ⟨-, -, -, apart⟩ := mapping_accepted
    [(.text "second", .int 60), (.text "MONTH", .list [.int 12, .int 13])] "rule"
  have named : namedParts "rule" [] [(.text "second", .int 60),
      (.text "MONTH", .list [.int 12, .int 13])] =
        .ok [(.second, .int 60), (.month, .list [.int 12, .int 13])] := rfl
  obtain ⟨same, first⟩ := apart (exists_namedParts.mp ⟨_, named⟩)
    [(.text "MONTH", .list [.int 12, .int 13]), (.text "second", .int 60)] (.swap _ _ _)
  have hour : Names (.text " Hour") .hour := ⟨_, rfl, by decide⟩
  have day : Names (.text "DAY-of-month") .dayOfMonth := ⟨_, rfl, by decide⟩
  refine ⟨⟨_, rfl, (taken _ rfl .hour).1 _ List.mem_cons_self hour, (taken _ rfl .minute).2 ?_⟩,
    ?_, same, first _ rfl⟩
  · rintro entry member minute
    obtain rfl | rfl : entry = _ ∨ entry = _ := by simpa using member
    · cases minute.unique hour
    · cases minute.unique day
  · obtain ⟨error, failed, plain | ⟨-, long⟩ | ⟨_, -, entry, member, _, text, -⟩⟩ :=
      refused (by rintro ⟨_, read⟩; cases read)
    · exact ⟨error, failed, plain⟩
    · cases long
    · cases List.mem_singleton.mp member
      cases List.mem_singleton.mp text

end Mappings

end Timetable.Rule
