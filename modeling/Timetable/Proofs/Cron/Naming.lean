import Timetable.Proofs.Cron.Piece

/-! Names in place of numbers.

A run of letters is replaced by the digits of the number that it names, whatever stands next to it.
Marks are carried over, so that a text and what replaces it fall into the same pieces.
-/

set_option autoImplicit false

namespace Timetable

namespace Cron

def IsName (names : Names) (word : List Char) (n : Nat) : Prop :=
  names.lookup (String.ofList (word.map Char.toLower)) = some (n : Int)

/-- Every run of letters is a name, and its number stands in its place. -/
inductive Replaced (names : Names) : List Char → List Char → Prop where
  | nil : Replaced names [] []
  | keep {c : Char} {text done : List Char} (other : isLetter c = false)
      (rest : Replaced names text done) : Replaced names (c :: text) (c :: done)
  | name {word text done : List Char} {n : Nat} (filled : word ≠ [])
      (letters : ∀ c ∈ word, isLetter c = true) (ends : ∀ c ∈ text.head?, isLetter c = false)
      (known : IsName names word n) (rest : Replaced names text done) :
      Replaced names (word ++ text) (Nat.toDigits 10 n ++ done)

section Replacement

variable {names : Names} {path : String} {text done word left right first last : List Char}
  {c mark : Char} {n : Nat}

theorem letter_of_head {rest : List Char} (filled : word ≠ [])
    (letters : ∀ c ∈ word, isLetter c = true) (same : word ++ text = c :: rest) :
    isLetter c = true := by
  cases word with
  | nil => exact absurd rfl filled
  | cons d others =>
    cases same
    exact letters c List.mem_cons_self

theorem replaced_cons (other : isLetter c = false) :
    Replaced names (c :: text) done ↔ ∃ rest, done = c :: rest ∧ Replaced names text rest := by
  constructor
  · intro replaced
    generalize same : c :: text = whole at replaced
    cases replaced with
    | nil => cases same
    | keep _ rest =>
      cases same
      exact ⟨_, rfl, rest⟩
    | name filled letters =>
      rw [letter_of_head filled letters same.symm] at other
      cases other
  · rintro ⟨rest, rfl, replaced⟩
    exact .keep other replaced

theorem takeWhile_isLetter (letters : ∀ c ∈ word, isLetter c = true)
    (ends : ∀ c ∈ text.head?, isLetter c = false) :
    (word ++ text).takeWhile isLetter = word := by
  rw [List.takeWhile_append_of_pos letters]
  cases text with
  | nil => simp
  | cons c rest =>
    rw [List.takeWhile_cons, ends c rfl, if_neg Bool.false_ne_true, List.append_nil]

theorem replaced_word (filled : word ≠ []) (letters : ∀ c ∈ word, isLetter c = true)
    (ends : ∀ c ∈ text.head?, isLetter c = false) :
    Replaced names (word ++ text) done ↔ ∃ n rest, IsName names word n ∧
      done = Nat.toDigits 10 n ++ rest ∧ Replaced names text rest := by
  constructor
  · intro replaced
    generalize same : word ++ text = whole at replaced
    cases replaced with
    | nil => exact absurd (List.append_eq_nil_iff.mp same).1 filled
    | keep other =>
      rw [letter_of_head filled letters same] at other
      cases other
    | @name word' text' rest n filled' letters' ends' known replaced =>
      -- Both words are all the letters that the text begins with.
      have met : word = word' := by
        rw [← takeWhile_isLetter letters ends, same, takeWhile_isLetter letters' ends']
      subst met
      cases List.append_cancel_left same
      exact ⟨n, rest, known, rfl, replaced⟩
  · rintro ⟨n, rest, known, rfl, replaced⟩
    exact .name filled letters ends known replaced

/-- A part that does not end, or is not followed, by a letter is replaced on its own. -/
theorem Replaced.parted (replaced : Replaced names (left ++ right) done)
    (apart : (∀ c ∈ left.getLast?, isLetter c = false) ∨ ∀ c ∈ right.head?, isLetter c = false) :
    ∃ first last, done = first ++ last ∧ Replaced names left first ∧
      Replaced names right last := by
  generalize same : left ++ right = whole at replaced
  induction replaced generalizing left with
  | nil =>
    obtain ⟨rfl, rfl⟩ := List.append_eq_nil_iff.mp same
    exact ⟨[], [], rfl, .nil, .nil⟩
  | @keep c text done noLetter rest ih =>
    cases left with
    | nil =>
      rw [List.nil_append] at same
      exact ⟨[], c :: done, rfl, .nil, same ▸ .keep noLetter rest⟩
    | cons d others =>
      obtain ⟨rfl, beyond⟩ := List.cons.inj same
      have apart := apart.imp_left fun ends c member =>
        ends c (List.mem_getLast?_cons member)
      obtain ⟨first, last, rfl, before, after⟩ := ih apart beyond
      exact ⟨d :: first, last, rfl, .keep noLetter before, after⟩
  | @name word text done n filled letters ends known rest ih =>
    obtain ⟨others, rfl, rfl⟩ | ⟨others, rfl, rfl⟩ := List.append_eq_append_iff.mp same
    · -- The name would reach from one part into the other, unless one of the two has nothing of it.
      have parts := List.forall_mem_append.mp letters
      by_cases none : left = []
      · subst none
        exact ⟨[], _, rfl, .nil, .name filled letters ends known rest⟩
      by_cases empty : others = []
      · subst empty
        rw [List.append_nil] at filled letters known
        refine ⟨_, done, rfl, ?_, rest⟩
        rw [← List.append_nil left, ← List.append_nil (Nat.toDigits 10 n)]
        exact .name filled letters (by simp) known .nil
      · exfalso
        obtain ends | begins := apart
        · have last := List.getLast?_eq_some_getLast none
          have letter := parts.1 _ (List.getLast_mem none)
          rw [ends _ last] at letter
          cases letter
        · have first : (others ++ text).head? = some (others.head empty) := by
            rw [List.head?_append_of_ne_nil _ empty, List.head?_eq_some_head empty]
          have letter := parts.2 _ (List.head_mem empty)
          rw [begins _ first] at letter
          cases letter
    · have apart := apart.imp_left fun ends c member =>
        ends c (List.mem_getLast?_append_of_mem_getLast? member)
      obtain ⟨first, last, rfl, before, after⟩ := ih apart rfl
      refine ⟨_ ++ first, last, (List.append_assoc ..).symm, ?_, after⟩
      refine .name filled letters (fun c member => ends c ?_) known before
      cases others with
      | nil => cases member
      | cons d rest => exact member

/-- Parts are replaced together where no run of letters reaches from one into the other. -/
theorem Replaced.joined {rest : List Char} (before : Replaced names left done)
    (after : Replaced names right rest)
    (apart : (∀ c ∈ left.getLast?, isLetter c = false) ∨ ∀ c ∈ right.head?, isLetter c = false) :
    Replaced names (left ++ right) (done ++ rest) := by
  induction before with
  | nil => exact after
  | keep noLetter _ ih =>
    exact .keep noLetter (ih (apart.imp_left fun ends c member =>
      ends c (List.mem_getLast?_cons member)))
  | @name word text done n filled letters stops known _ ih =>
    rw [List.append_assoc, List.append_assoc]
    refine .name filled letters (fun c member => ?_) known
      (ih (apart.imp_left fun ends c member =>
        ends c (List.mem_getLast?_append_of_mem_getLast? member)))
    cases text with
    | cons d more => exact stops c member
    | nil =>
      obtain ends | begins := apart
      · rw [List.append_nil] at ends
        have letter := letters _ (List.getLast_mem filled)
        rw [ends _ (List.getLast?_eq_some_getLast filled)] at letter
        cases letter
      · exact begins c member

theorem after_beginning (free : mark ∉ word) (same : first ++ mark :: last = word ++ text) :
    ∃ rest, first = word ++ rest ∧ text = rest ++ mark :: last := by
  obtain ⟨rest, rfl, met⟩ | ⟨rest, rfl, met⟩ := List.append_eq_append_iff.mp same
  · cases rest with
    | nil => exact ⟨[], by simp, met.symm⟩
    | cons c rest =>
      cases met
      exact absurd (List.mem_append_right _ List.mem_cons_self) free
  · exact ⟨rest, rfl, met⟩

theorem replaced_append (other : isLetter mark = false) :
    Replaced names (first ++ mark :: last) done ↔ ∃ left right, done = left ++ mark :: right ∧
      Replaced names first left ∧ Replaced names last right := by
  have ends : ∀ c ∈ (mark :: last).head?, isLetter c = false :=
    fun c member => Option.some.inj member ▸ other
  constructor
  · intro replaced
    obtain ⟨left, _, rfl, before, marked⟩ := replaced.parted (.inr ends)
    obtain ⟨right, rfl, after⟩ := (replaced_cons other).mp marked
    exact ⟨left, right, rfl, before, after⟩
  · rintro ⟨left, right, rfl, before, after⟩
    exact before.joined (.keep other after) (.inr ends)

theorem Replaced.of_append (noDigit : Text.isDigit mark = false)
    (replaced : Replaced names text (left ++ mark :: right)) :
    ∃ first last, text = first ++ mark :: last ∧ Replaced names first left ∧
      Replaced names last right := by
  generalize same : left ++ mark :: right = whole at replaced
  induction replaced generalizing left with
  | nil => cases (List.append_eq_nil_iff.mp same).2
  | @keep c text done noLetter rest ih =>
    cases left with
    | nil =>
      cases same
      exact ⟨[], text, rfl, .nil, rest⟩
    | cons d others =>
      obtain ⟨rfl, beyond⟩ := List.cons.inj same
      obtain ⟨first, last, rfl, before, after⟩ := ih beyond
      exact ⟨d :: first, last, rfl, .keep noLetter before, after⟩
  | @name word text done n filled letters ends known rest ih =>
    -- The digits of a name hold no mark, so the mark was there before.
    have free : mark ∉ Nat.toDigits 10 n := (Text.numeral_toDigits n).free noDigit
    obtain ⟨others, rfl, rfl⟩ := after_beginning free same
    obtain ⟨first, last, rfl, before, after⟩ := ih rfl
    refine ⟨word ++ first, last, (List.append_assoc ..).symm, ?_, after⟩
    refine .name filled letters (fun c member => ends c ?_) known before
    cases first with
    | nil => cases member
    | cons d rest => exact member

theorem Replaced.eq_nil (replaced : Replaced names text []) : text = [] := by
  generalize same : [] = done at replaced
  cases replaced with
  | nil => rfl
  | keep => cases same
  | name =>
    exact absurd (List.append_eq_nil_iff.mp same.symm).1 Nat.toDigits_ne_nil

theorem replaced_nil : Replaced names [] done ↔ done = [] := by
  constructor
  · intro replaced
    generalize same : [] = text at replaced
    cases replaced with
    | nil => rfl
    | keep => cases same
    | name filled => exact absurd (List.append_eq_nil_iff.mp same.symm).1 filled
  · rintro rfl
    exact .nil

theorem replaced_self (plain : ∀ c ∈ text, isLetter c = false) : Replaced names text text := by
  induction text with
  | nil => exact .nil
  | cons c rest ih =>
    obtain ⟨other, others⟩ := List.forall_mem_cons.mp plain
    exact .keep other (ih others)

/-- Names are words for numbers from zero on, and no k is in them. The k is the one plain letter
that letters of other scripts become. -/
def IsPlain (names : Names) : Prop :=
  ∀ entry ∈ names, 0 ≤ entry.2 ∧ 'k' ∉ entry.1.toList ∧ entry.1.toList ≠ [] ∧
    ∀ c ∈ entry.1.toList, isLetter c = true

theorem isPlain_namesFor (part : Part) : IsPlain (namesFor part) := by
  cases part <;> simp only [IsPlain, namesFor, ← List.all_iff_forall_prop] <;> decide

theorem IsPlain.of_lookup (plain : IsPlain names) {word : String} {n : Int}
    (known : names.lookup word = some n) : 0 ≤ n ∧ 'k' ∉ word.toList ∧ word.toList ≠ [] ∧
      ∀ c ∈ word.toList, isLetter c = true := by
  obtain ⟨before, after, rfl, -⟩ := List.lookup_eq_some_iff.mp known
  exact plain (word, n) (List.mem_append_right _ List.mem_cons_self)

theorem nameValue_eq_ok (plain : IsPlain names) {run : List Char} :
    nameValue names path run = .ok done ↔ ∃ n, IsName names run.reverse n ∧
      done = Nat.toDigits 10 n := by
  simp only [nameValue, IsName]
  cases known : names.lookup (String.ofList (run.reverse.map Char.toLower)) with
  | none => simp
  | some value =>
    obtain ⟨n, rfl⟩ := Int.eq_ofNat_of_zero_le (plain.of_lookup known).1
    simp only [Except.ok.injEq, Option.some.injEq, Int.ofNat_inj, exists_eq_left']
    rw [show Text.ofInt (n : Int) = Text.ofNat n from rfl, Text.toList_ofNat]
    exact eq_comm

/-- The letters read so far belong to the word that goes on in the text. -/
theorem replaceFrom_eq_ok (plain : IsPlain names) {run : List Char}
    (letters : ∀ c ∈ run, isLetter c = true) :
    replaceFrom names path run text = .ok done ↔ Replaced names (run.reverse ++ text) done := by
  have word {run : List Char} (some : ¬run.isEmpty = true)
      (letters : ∀ c ∈ run, isLetter c = true) :
      run.reverse ≠ [] ∧ ∀ c ∈ run.reverse, isLetter c = true :=
    ⟨fun none => some (List.isEmpty_iff.mpr (List.reverse_eq_nil_iff.mp none)),
      fun c member => letters c (List.mem_reverse.mp member)⟩
  -- By the text, as the run grows letter by letter and is empty again after each name.
  induction text generalizing run done with
  | nil =>
    rw [replaceFrom]
    split
    next none =>
      rw [List.isEmpty_iff.mp none, List.reverse_nil, List.nil_append, replaced_nil,
        Except.ok.injEq]
      exact eq_comm
    next some =>
      obtain ⟨filled, each⟩ := word some letters
      rw [nameValue_eq_ok plain, replaced_word filled each (by simp)]
      simp [replaced_nil]
  | cons c rest ih =>
    rw [replaceFrom]
    split
    next letter =>
      have longer := @ih done (c :: run) (List.forall_mem_cons.mpr ⟨letter, letters⟩)
      rw [List.reverse_cons, List.append_assoc, List.singleton_append] at longer
      exact longer
    next noLetter =>
      have other := eq_false_of_ne_true noLetter
      have fresh (after) := @ih after [] fun _ member => absurd member List.not_mem_nil
      simp only [List.reverse_nil, List.nil_append] at fresh
      split
      next empty =>
        rw [List.isEmpty_iff.mp empty, List.reverse_nil, List.nil_append, replaced_cons other,
          mapped_eq_ok]
        exact exists_congr fun after => and_comm.trans (and_congr_right' (fresh after))
      next some =>
        obtain ⟨filled, each⟩ := word some letters
        have ends : ∀ d ∈ (c :: rest).head?, isLetter d = false :=
          fun d member => Option.some.inj member ▸ other
        rw [replaced_word filled each ends]
        cases value : nameValue names path run with
        | error error =>
          constructor
          · intro read
            cases read
          · rintro ⟨n, -, known, -⟩
            rw [(nameValue_eq_ok plain).mpr ⟨n, known, rfl⟩] at value
            cases value
        | ok number =>
          obtain ⟨n, known, rfl⟩ := (nameValue_eq_ok plain).mp value
          simp only [mapped_eq_ok, fresh, replaced_cons other]
          constructor
          · rintro ⟨after, replaced, rfl⟩
            exact ⟨n, c :: after, known, rfl, after, rfl, replaced⟩
          · rintro ⟨m, _, other, rfl, after, rfl, replaced⟩
            cases Int.ofNat_inj.mp (Option.some.inj (known.symm.trans other))
            exact ⟨after, replaced, rfl⟩

theorem replaceNames_eq_ok (plain : IsPlain names) :
    replaceNames names path text = .ok done ↔ Replaced names text done :=
  replaceFrom_eq_ok plain (fun _ member => absurd member List.not_mem_nil)

theorem Replaced.eq_of_no_letters (replaced : Replaced names text done)
    (plain : ∀ c ∈ text, isLetter c = false) : text = done := by
  induction replaced with
  | nil => rfl
  | keep _ _ ih => rw [ih (List.forall_mem_cons.mp plain).2]
  | @name word _ _ _ filled letters _ _ _ _ =>
    obtain ⟨c, member⟩ := List.exists_mem_of_ne_nil word filled
    have letter := letters c member
    rw [plain c (List.mem_append_left _ member)] at letter
    cases letter

theorem replaced_of_no_names (replaced : Replaced [] text done) : text = done := by
  induction replaced with
  | nil => rfl
  | keep _ _ ih => rw [ih]
  | name _ _ _ known => cases known

end Replacement

section LowerCase

variable {names : Names} {path : String} {text done token before : List Char} {c : Char}

def isNumeric (c : Char) : Bool :=
  Text.isDigit c || ['*', '/', '-', ','].contains c

def isGlyph (c : Char) : Bool :=
  isNumeric c || isLetter c && c.toLower != 'k'

theorem ascii_glyphs : ∀ n < 0x80, let c := Char.ofNat n
    isGlyph c.toLower = isGlyph c ∧ isLetter c.toLower = isLetter c ∧
      c.toLower.toLower = c.toLower ∧ (isNumeric c = true → c.toLower = c ∧ isLetter c = false) := by
  decide +kernel

theorem ascii_spec (low : c.toNat < 0x80) :
    isGlyph c.toLower = isGlyph c ∧ isLetter c.toLower = isLetter c ∧
      c.toLower.toLower = c.toLower ∧
        (isNumeric c = true → c.toLower = c ∧ isLetter c = false) := by
  have each := ascii_glyphs c.toNat low
  rwa [Char.ofNat_toNat] at each

theorem low_of_isLetter (letter : isLetter c = true) : c.toNat < 0x80 := by
  obtain upper | lower := Bool.or_eq_true_iff.mp letter
  · have most : c.toNat ≤ 0x5a := UInt32.le_iff_toNat_le.mp (of_decide_eq_true upper).2
    omega
  · have within := (Bool.and_eq_true_iff.mp lower).2
    have most : c.toNat ≤ 0x7a := UInt32.le_iff_toNat_le.mp (of_decide_eq_true within)
    omega

theorem isGlyph_cases (glyph : isGlyph c = true) : c.toNat < 0x80 ∨ Text.isDigit c = true := by
  simp only [isGlyph, isNumeric, Bool.or_eq_true, Bool.and_eq_true] at glyph
  obtain (digit | mark) | ⟨letter, -⟩ := glyph
  · exact .inr digit
  · refine .inl ?_
    have marks : ∀ mark ∈ ['*', '/', '-', ','], mark.toNat < 0x80 :=
      List.all_iff_forall_prop.mp (by decide)
    exact marks c (List.contains_iff_mem.mp mark)
  · exact .inl (low_of_isLetter letter)

theorem isLetter_of_isDigit (digit : Text.isDigit c = true) : isLetter c = false := by
  rw [← Bool.not_eq_true]
  intro letter
  have low := low_of_isLetter letter
  have numeric : isNumeric c = true := by rw [isNumeric, digit, Bool.true_or]
  rw [((ascii_spec low).2.2.2 numeric).2] at letter
  cases letter

theorem toLower_of_isNumeric (numeric : isNumeric c = true) :
    c.toLower = c ∧ isLetter c = false := by
  have glyph : isGlyph c = true := by rw [isGlyph, numeric, Bool.true_or]
  cases isGlyph_cases glyph with
  | inl low => exact (ascii_spec low).2.2.2 numeric
  | inr digit => exact ⟨Text.toLower_of_isDigit digit, isLetter_of_isDigit digit⟩

theorem isLetter_toLower (c : Char) : isLetter c.toLower = isLetter c := by
  by_cases low : c.toNat < 0x80
  · exact (ascii_spec low).2.1
  · rw [Text.toLower_eq_self fun _ => by omega]

theorem lowerAfter_of_glyphs (glyphs : ∀ c ∈ text, isGlyph c = true) :
    Text.lowerAfter before text = text.map Char.toLower := by
  induction text generalizing before with
  | nil => rfl
  | cons c rest ih =>
    obtain ⟨glyph, others⟩ := List.forall_mem_cons.mp glyphs
    have noDot : c ≠ 'İ' := by rintro rfl; revert glyph; decide
    have noSigma : c ≠ 'Σ' := by rintro rfl; revert glyph; decide
    rw [Text.lowerAfter, if_neg noDot, if_neg noSigma, ih others, List.map_cons]
    split
    next => rfl
    next high =>
      have digit := (isGlyph_cases glyph).resolve_left high
      rw [Text.lowerChar_of_isDigit digit, Text.toLower_of_isDigit digit, List.singleton_append]

theorem glyphs_of_lowerAfter (glyphs : ∀ c ∈ Text.lowerAfter before text, isGlyph c = true) :
    ∀ c ∈ text, isGlyph c = true := by
  induction text generalizing before with
  | nil => exact fun _ member => absurd member List.not_mem_nil
  | cons c rest ih =>
    simp only [Text.lowerAfter] at glyphs
    -- Of the characters of other scripts one becomes a k, and one an i with a dot, which no column
    -- holds. The others become nothing plain.
    obtain ⟨first, others⟩ := List.forall_mem_append.mp glyphs
    refine List.forall_mem_cons.mpr ⟨?_, ih others⟩
    split at first
    next =>
      exact absurd (first '\u0307' (by simp)) (by decide)
    next =>
      split at first
      next =>
        split at first
        · exact absurd (first 'ς' List.mem_cons_self) (by decide)
        · exact absurd (first 'σ' List.mem_cons_self) (by decide)
      next =>
        split at first
        next low => rw [← (ascii_spec low).1, first _ List.mem_cons_self]
        next high =>
          have image := first _ List.mem_cons_self
          obtain same | same | same | ⟨noDigit, other⟩ := Text.lowerChar_cases (Nat.not_lt.mp high)
          · rwa [same] at image
          · exact absurd (same ▸ image) (by decide)
          · exact absurd (same ▸ image) (by decide)
          · obtain low | digit := isGlyph_cases image
            · omega
            · rw [digit] at noDigit
              cases noDigit

end LowerCase

section Named

variable {names : Names} {path : String} {text done other : List Char} {c : Char}

theorem toLower_of_no_letter (noLetter : isLetter c = false) : c.toLower = c := by
  refine Text.toLower_eq_self fun least => Nat.lt_of_not_le fun most => ?_
  have upper : c.isUpper = true :=
    decide_eq_true ⟨UInt32.le_iff_toNat_le.mpr least, UInt32.le_iff_toNat_le.mpr most⟩
  have letter : isLetter c = (c.isUpper || c.isLower) := rfl
  rw [letter, upper] at noLetter
  cases noLetter

/-- Names are names in any case, and what is no letter has no case. -/
theorem Replaced.recased (replaced : Replaced names text done)
    (same : text.map Char.toLower = other.map Char.toLower) : Replaced names other done := by
  induction replaced generalizing other with
  | nil =>
    cases other with
    | nil => exact .nil
    | cons d rest => cases same
  | @keep c text done noLetter _ ih =>
    cases other with
    | nil => cases same
    | cons d rest =>
      obtain ⟨first, others⟩ := List.cons.inj same
      have none : isLetter d = false := by
        rw [← isLetter_toLower, ← first, isLetter_toLower, noLetter]
      rw [toLower_of_no_letter noLetter, toLower_of_no_letter none] at first
      subst first
      exact .keep noLetter (ih others)
  | @name word text done n filled letters ends known _ ih =>
    rw [List.map_append, eq_comm, List.map_eq_append_iff] at same
    obtain ⟨word', text', rfl, sameWord, sameText⟩ := same
    have letter {c d : Char} (lowered : c.toLower = d.toLower) : isLetter c = isLetter d := by
      rw [← isLetter_toLower c, lowered, isLetter_toLower]
    refine .name (fun none => filled ?_) (fun c member => ?_) (fun c member => ?_) ?_
      (ih sameText.symm)
    · rw [none] at sameWord
      exact List.map_eq_nil_iff.mp sameWord.symm
    · have lowered : c.toLower ∈ word.map Char.toLower := sameWord ▸ List.mem_map_of_mem member
      obtain ⟨d, inside, same⟩ := List.mem_map.mp lowered
      rw [← letter same, letters d inside]
    · have lowered : c.toLower ∈ (text.map Char.toLower).head? := by
        rw [← sameText, List.head?_map]
        exact Option.mem_map_of_mem _ member
      rw [List.head?_map] at lowered
      obtain ⟨d, inside, same⟩ := Option.mem_map.mp lowered
      rw [← letter same, ends d inside]
    · rw [IsName, sameWord]
      exact known

theorem toLower_toLower (c : Char) : c.toLower.toLower = c.toLower := by
  by_cases low : c.toNat < 0x80
  · exact (ascii_spec low).2.2.1
  · have same : c.toLower = c := Text.toLower_eq_self fun _ => by omega
    rw [same, same]

theorem replaced_lower : Replaced names (text.map Char.toLower) done ↔ Replaced names text done := by
  have twice : (text.map Char.toLower).map Char.toLower = text.map Char.toLower := by
    rw [List.map_map]
    exact List.map_congr_left fun c _ => toLower_toLower c
  exact ⟨(·.recased twice), (·.recased twice.symm)⟩

theorem glyphs_of_replaced (plain : IsPlain names) (replaced : Replaced names text done)
    (numeric : ∀ c ∈ done, isNumeric c = true) : ∀ c ∈ text, isGlyph c = true := by
  induction replaced with
  | nil => exact fun _ member => absurd member List.not_mem_nil
  | keep _ _ ih =>
    obtain ⟨first, others⟩ := List.forall_mem_cons.mp numeric
    refine List.forall_mem_cons.mpr ⟨?_, ih others⟩
    rw [isGlyph, first, Bool.true_or]
  | @name word text done n filled letters ends known _ ih =>
    refine List.forall_mem_append.mpr ⟨fun c member => ?_, ih (List.forall_mem_append.mp numeric).2⟩
    have noK : c.toLower ≠ 'k' := by
      intro same
      refine (plain.of_lookup known).2.1 ?_
      rw [String.toList_ofList]
      exact same ▸ List.mem_map_of_mem member
    rw [isGlyph, letters c member, Bool.true_and, Bool.or_eq_true, bne_iff_ne]
    exact .inr noK

/-- What is read of a column of digits, marks and names, in whatever case, is what replaces it. -/
theorem named_eq_ok (plain : IsPlain names) (numeric : ∀ c ∈ done, isNumeric c = true) :
    (if names.isEmpty then .ok (Text.lower text) else replaceNames names path (Text.lower text)) =
      .ok done ↔ Replaced names text done := by
  have spared : (if names.isEmpty then .ok (Text.lower text)
      else replaceNames names path (Text.lower text)) = .ok done ↔
        Replaced names (Text.lower text) done := by
    split
    next none =>
      rw [List.isEmpty_iff.mp none, Except.ok.injEq]
      refine ⟨fun same => ?_, replaced_of_no_names⟩
      rw [same]
      exact replaced_self fun c member => (toLower_of_isNumeric (numeric c member)).2
    next => exact replaceNames_eq_ok plain
  -- Only glyphs become digits and marks, and in glyphs lower case changes nothing but letters,
  -- whose case does not matter for names.
  rw [spared]
  constructor
  · intro replaced
    have glyphs := glyphs_of_lowerAfter (glyphs_of_replaced plain replaced numeric)
    rw [Text.lower, lowerAfter_of_glyphs glyphs] at replaced
    exact replaced_lower.mp replaced
  · intro replaced
    have glyphs := glyphs_of_replaced plain replaced numeric
    rw [Text.lower, lowerAfter_of_glyphs glyphs]
    exact replaced_lower.mpr replaced

end Named

section Pieces

variable {names : Names} {text done : List Char} {texts dones : List (List Char)} {domain : Domain}
  {field : Field}

theorem comma_spec : isLetter ',' = false ∧ Text.isDigit ',' = false :=
  ⟨(Text.marks_spec ',' (by decide)).2.2, (Text.marks_spec ',' (by decide)).1⟩

theorem replaced_intercalate (some : texts ≠ []) :
    Replaced names ([','].intercalate texts) done ↔
      ∃ dones, List.Forall₂ (Replaced names) texts dones ∧ done = [','].intercalate dones := by
  induction texts generalizing done with
  | nil => exact absurd rfl some
  | cons text rest ih =>
    cases rest with
    | nil =>
      rw [List.intercalate_singleton]
      constructor
      · intro replaced
        exact ⟨[done], .cons replaced .nil, List.intercalate_singleton.symm⟩
      · rintro ⟨dones, each, rfl⟩
        obtain ⟨done, rest, replaced, last, rfl⟩ := List.forall₂_cons_left_iff.mp each
        cases last
        rwa [List.intercalate_singleton]
    | cons next rest =>
      rw [List.intercalate_cons_cons, List.append_assoc, List.singleton_append,
        replaced_append comma_spec.1]
      constructor
      · rintro ⟨left, right, rfl, before, after⟩
        obtain ⟨dones, each, rfl⟩ := (ih (List.cons_ne_nil next rest)).mp after
        obtain ⟨second, others, first, last, rfl⟩ := List.forall₂_cons_left_iff.mp each
        refine ⟨left :: second :: others, .cons before each, ?_⟩
        rw [List.intercalate_cons_cons, List.append_assoc, List.singleton_append]
      · rintro ⟨dones, each, rfl⟩
        obtain ⟨left, others, before, later, rfl⟩ := List.forall₂_cons_left_iff.mp each
        obtain ⟨second, others, first, last, rfl⟩ := List.forall₂_cons_left_iff.mp later
        refine ⟨left, [','].intercalate (second :: others), ?_, before,
          (ih (List.cons_ne_nil next rest)).mpr ⟨_, later, rfl⟩⟩
        rw [List.intercalate_cons_cons, List.append_assoc, List.singleton_append]

theorem Replaced.comma_free (replaced : Replaced names text done) (free : ',' ∉ text) :
    ',' ∉ done := by
  intro member
  obtain ⟨left, right, rfl⟩ := List.append_of_mem member
  obtain ⟨first, last, rfl, -⟩ := replaced.of_append comma_spec.2
  exact free (List.mem_append_right _ List.mem_cons_self)

end Pieces

def Numerals.glued (names : Names) : Numerals where
  number text n := ∃ digits, Replaced names text digits ∧ Text.Numeral digits n
  alone text n := ∃ digits, Replaced names text digits ∧ Text.PlainNumeral digits n

section Glued

variable {names : Names} {text done : List Char} {domain : Domain} {field : Field}

theorem replaced_mark {mark : Char} (known : mark ∈ ['*', '/', '-', ','])
    (replaced : Replaced names text (mark :: done)) :
    ∃ rest, text = mark :: rest ∧ Replaced names rest done := by
  rw [← List.nil_append (mark :: done)] at replaced
  obtain ⟨first, last, rfl, before, after⟩ := replaced.of_append (Text.marks_spec mark known).1
  exact ⟨last, by rw [before.eq_nil, List.nil_append], after⟩

theorem piece_glued : Piece (.glued names) domain text field ↔
    ∃ done, Replaced names text done ∧ Piece .digits domain done field := by
  have mark {mark : Char} (known : mark ∈ ['*', '/', '-', ',']) : isLetter mark = false :=
    (Text.marks_spec mark known).2.2
  constructor
  · intro stands
    cases stands with
    | star => exact ⟨['*'], .keep (mark (by decide)) .nil, .star⟩
    | exact written within =>
      obtain ⟨digits, replaced, read⟩ := written
      exact ⟨digits, replaced, .exact read within⟩
    | range before after ordered least greatest =>
      obtain ⟨left, first, readFirst⟩ := before
      obtain ⟨right, last, readLast⟩ := after
      exact ⟨_, (replaced_append (mark (by decide))).mpr ⟨left, right, rfl, first, last⟩,
        .range readFirst readLast ordered least greatest⟩
    | step written positive within =>
      obtain ⟨digits, replaced, read⟩ := written
      exact ⟨_, .keep (mark (by decide)) replaced, .step read positive within⟩
    | starStep written positive within =>
      obtain ⟨digits, replaced, read⟩ := written
      exact ⟨_, .keep (mark (by decide)) (.keep (mark (by decide)) replaced),
        .starStep read positive within⟩
    | shifted before after positive within =>
      obtain ⟨left, first, readFirst⟩ := before
      obtain ⟨right, last, readLast⟩ := after
      exact ⟨_, (replaced_append (mark (by decide))).mpr ⟨left, right, rfl, first, last⟩,
        .shifted readFirst readLast positive within⟩
    | shiftedBelow before after positive within =>
      obtain ⟨left, first, readFirst⟩ := before
      obtain ⟨right, last, readLast⟩ := after
      have signed := Replaced.keep (mark (show '-' ∈ _ by decide)) first
      exact ⟨_, (replaced_append (mark (by decide))).mpr ⟨_, right, rfl, signed, last⟩,
        .shiftedBelow readFirst readLast positive within⟩
  · rintro ⟨done, replaced, stands⟩
    have digit {mark : Char} (known : mark ∈ ['*', '/', '-', ',']) : Text.isDigit mark = false :=
      (Text.marks_spec mark known).1
    cases stands with
    | star =>
      obtain ⟨rest, rfl, others⟩ := replaced_mark (by decide) replaced
      cases others.eq_nil
      exact .star
    | exact written within => exact .exact ⟨_, replaced, written⟩ within
    | range before after ordered least greatest =>
      obtain ⟨first, last, rfl, left, right⟩ := replaced.of_append (digit (by decide))
      exact .range ⟨_, left, before⟩ ⟨_, right, after⟩ ordered least greatest
    | step written positive within =>
      obtain ⟨rest, rfl, digits⟩ := replaced_mark (by decide) replaced
      exact .step ⟨_, digits, written⟩ positive within
    | starStep written positive within =>
      obtain ⟨step, rfl, others⟩ := replaced_mark (by decide) replaced
      obtain ⟨rest, rfl, digits⟩ := replaced_mark (by decide) others
      exact .starStep ⟨_, digits, written⟩ positive within
    | shifted before after positive within =>
      obtain ⟨first, last, rfl, left, right⟩ := replaced.of_append (digit (by decide))
      exact .shifted ⟨_, left, before⟩ ⟨_, right, after⟩ positive within
    | shiftedBelow before after positive within =>
      obtain ⟨first, last, rfl, left, right⟩ := replaced.of_append (digit (by decide))
      obtain ⟨rest, rfl, digits⟩ := replaced_mark (by decide) left
      exact .shiftedBelow ⟨_, digits, before⟩ ⟨_, right, after⟩ positive within

end Glued

end Cron

end Timetable
