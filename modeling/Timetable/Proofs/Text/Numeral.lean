import Mathlib.Data.Nat.Digits.Defs
import Timetable.Proofs.Text.Split
import Timetable.Text.Digit
import Timetable.Text.LowerCase

/-! Digits and letters in a text.

The plain digits that a number is written in spell that number again. Digits of every script are
apart from letters, marks and blanks, and lower case makes neither digits nor blanks.
-/

set_option autoImplicit false

namespace Timetable.Text

section Digits

variable {text : List Char} {c : Char} {n : Nat}

theorem isDigit_iff : isDigit c = true ↔ ∃ base ∈ zeros, base ≤ c.toNat ∧ c.toNat < base + 10 := by
  simp [isDigit, digit?]

theorem isPlainDigit_iff : isPlainDigit c = true ↔ 0x30 ≤ c.toNat ∧ c.toNat < 0x3a := by
  simp only [isPlainDigit, Bool.and_eq_true, decide_eq_true_eq, Char.le_def, UInt32.le_iff_toNat_le]
  exact and_congr Iff.rfl (Nat.lt_succ_iff (n := 0x39)).symm

theorem digit?_of_isPlainDigit (plain : isPlainDigit c = true) :
    digit? c = some (c.toNat - 0x30) := by
  have first : zeros.find? (fun base => decide (base ≤ c.toNat ∧ c.toNat < base + 10)) = some 0x30 :=
    List.find?_cons_of_pos (decide_eq_true (isPlainDigit_iff.mp plain))
  rw [digit?, first, Option.map_some]

theorem isDigit_of_isPlainDigit (plain : isPlainDigit c = true) : isDigit c = true := by
  rw [isDigit, digit?_of_isPlainDigit plain]
  rfl

theorem zeros_spec : ∀ base ∈ zeros, base = 0x30 ∨ 0x80 ≤ base := by
  decide

theorem isPlainDigit_of_isDigit (digit : isDigit c = true) (low : c.toNat < 0x80) :
    isPlainDigit c = true := by
  obtain ⟨base, known, least, most⟩ := isDigit_iff.mp digit
  cases zeros_spec base known with
  | inl zero => exact isPlainDigit_iff.mpr (by omega)
  | inr high => omega

theorem allAre_iff {test : Char → Bool} :
    allAre test text = true ↔ text ≠ [] ∧ ∀ c ∈ text, test c = true := by
  simp [allAre]

theorem number_eq_ok :
    number text = .ok n ↔ text.length ≤ digitLimit ∧ numberFrom 0 text = n := by
  rw [number]
  split
  next long => simp [Nat.not_le_of_lt long]
  next short => simp [Nat.le_of_not_lt short]

theorem number_eq_error :
    number text = .error n ↔ digitLimit < text.length ∧ text.length = n := by
  rw [number]
  split
  next long => simp [long]
  next short => simp [short]

def Numeral (text : List Char) (n : Nat) : Prop :=
  ∃ digits, digits ≠ [] ∧ text.map digit? = digits.map some ∧ Nat.ofDigits 10 digits.reverse = n

theorem numberFrom_eq_ofDigits {digits : List Nat} (read : text.map digit? = digits.map some)
    (value : Nat) :
    numberFrom value text = Nat.ofDigits 10 digits.reverse + 10 ^ digits.length * value := by
  induction text generalizing digits value with
  | nil =>
    cases digits with
    | nil => simp [numberFrom]
    | cons d others => cases read
  | cons c rest ih =>
    cases digits with
    | nil => cases read
    | cons d others =>
      obtain ⟨first, read⟩ := List.cons.inj read
      rw [numberFrom, first, Option.getD_some, ih read, List.reverse_cons, Nat.ofDigits_append,
        Nat.ofDigits_singleton, List.length_reverse, List.length_cons]
      ring

theorem numeral_iff : Numeral text n ↔ allAre isDigit text = true ∧ numberFrom 0 text = n := by
  rw [allAre_iff]
  constructor
  · rintro ⟨digits, filled, read, rfl⟩
    refine ⟨⟨?_, fun c member => ?_⟩, ?_⟩
    · rintro rfl
      exact filled (List.map_eq_nil_iff.mp read.symm)
    · have known : digit? c ∈ digits.map some := read ▸ List.mem_map_of_mem member
      obtain ⟨d, -, same⟩ := List.mem_map.mp known
      rw [isDigit, ← same]
      rfl
    · rw [numberFrom_eq_ofDigits read, Nat.mul_zero, Nat.add_zero]
  · rintro ⟨⟨filled, each⟩, rfl⟩
    have read : text.map digit? = (text.map fun c => (digit? c).getD 0).map some := by
      rw [List.map_map]
      refine List.map_congr_left fun c member => ?_
      obtain ⟨d, known⟩ := Option.isSome_iff_exists.mp (each c member)
      rw [Function.comp_apply, known, Option.getD_some]
    refine ⟨_, fun none => filled (List.map_eq_nil_iff.mp none), read, ?_⟩
    rw [numberFrom_eq_ofDigits read, Nat.mul_zero, Nat.add_zero]

theorem digit?_lt {d : Nat} (known : digit? c = some d) : d < 10 := by
  obtain ⟨base, found, rfl⟩ := Option.map_eq_some_iff.mp known
  have within := List.find?_some found
  rw [decide_eq_true_eq] at within
  omega

theorem numberFrom_lt (text : List Char) (value : Nat) :
    numberFrom value text < 10 ^ text.length * (value + 1) := by
  induction text generalizing value with
  | nil => simp [numberFrom]
  | cons c rest ih =>
    have small : (digit? c).getD 0 < 10 := by
      cases known : digit? c with
      | none => decide
      | some d => exact digit?_lt known
    calc numberFrom value (c :: rest)
        < 10 ^ rest.length * (10 * value + (digit? c).getD 0 + 1) := ih _
      _ ≤ 10 ^ rest.length * (10 * (value + 1)) := Nat.mul_le_mul_left _ (by omega)
      _ = 10 ^ (c :: rest).length * (value + 1) := by rw [List.length_cons, Nat.pow_succ]; ring

def PlainNumeral (text : List Char) (n : Nat) : Prop :=
  Numeral text n ∧ ∀ c ∈ text, isPlainDigit c = true

theorem plainNumeral_iff :
    PlainNumeral text n ↔ allAre isPlainDigit text = true ∧ numberFrom 0 text = n := by
  rw [PlainNumeral, numeral_iff, allAre_iff, allAre_iff]
  constructor
  · rintro ⟨⟨⟨filled, -⟩, spelled⟩, plain⟩
    exact ⟨⟨filled, plain⟩, spelled⟩
  · rintro ⟨⟨filled, plain⟩, spelled⟩
    exact ⟨⟨⟨filled, fun c member => isDigit_of_isPlainDigit (plain c member)⟩, spelled⟩, plain⟩

namespace Numeral

variable {first rest : List Char} {m : Nat}

theorem unique (numeral : Numeral text n) (other : Numeral text m) : n = m :=
  (numeral_iff.mp numeral).2.symm.trans (numeral_iff.mp other).2

theorem isDigit (numeral : Numeral text n) (member : c ∈ text) : isDigit c = true :=
  (allAre_iff.mp (numeral_iff.mp numeral).1).2 c member

theorem free (numeral : Numeral text n) (noDigit : Text.isDigit c = false) : c ∉ text := by
  intro member
  rw [numeral.isDigit member] at noDigit
  cases noDigit

theorem ne_nil (numeral : Numeral text n) : text ≠ [] :=
  (allAre_iff.mp (numeral_iff.mp numeral).1).1

theorem length_toDigits_le (numeral : Numeral text n) :
    (Nat.toDigits 10 n).length ≤ text.length := by
  have bounded := numberFrom_lt text 0
  rw [(numeral_iff.mp numeral).2, Nat.zero_add, Nat.mul_one] at bounded
  exact Nat.toDigits_length 10 n _ (List.length_pos_iff.mpr numeral.ne_nil) bounded

theorem isWritable (numeral : Numeral text n) (short : text.length ≤ digitLimit) :
    isWritable n = true :=
  decide_eq_true (numeral.length_toDigits_le.trans short)

theorem append_ne_cons (numeral : Numeral first n) (noDigit : Text.isDigit c = false) :
    first ++ text ≠ c :: rest := by
  intro same
  cases first with
  | nil => exact numeral.ne_nil rfl
  | cons d others =>
    rw [List.cons_append] at same
    exact numeral.free noDigit ((List.cons.inj same).1 ▸ List.mem_cons_self)

end Numeral

theorem isWritable_neg (n : Int) : isWritable (-n) = isWritable n := by
  rw [isWritable, isWritable, Int.natAbs_neg]

theorem not_allAre_plain (member : c ∈ text) (noDigit : isDigit c = false) :
    allAre isPlainDigit text = false := by
  rw [← Bool.not_eq_true, allAre_iff]
  rintro ⟨-, plain⟩
  rw [isDigit_of_isPlainDigit (plain c member)] at noDigit
  cases noDigit

theorem isPlainDigit_eq_isDigit : isPlainDigit c = c.isDigit := by
  rw [Bool.eq_iff_iff, isPlainDigit_iff, Char.isDigit, Bool.and_eq_true, decide_eq_true_eq,
    decide_eq_true_eq]
  exact and_congr Iff.rfl (Nat.lt_succ_iff (n := 0x39))

theorem numberFrom_eq (plain : ∀ c ∈ text, isPlainDigit c = true) (value : Nat) :
    numberFrom value text = Nat.ofDigitChars 10 text value := by
  induction text generalizing value with
  | nil => rfl
  | cons c rest ih =>
    obtain ⟨first, others⟩ := List.forall_mem_cons.mp plain
    rw [numberFrom, digit?_of_isPlainDigit first, ih others]
    rfl

theorem plainNumeral_toDigits (n : Nat) : PlainNumeral (Nat.toDigits 10 n) n := by
  have plain (c : Char) (member : c ∈ Nat.toDigits 10 n) : isPlainDigit c = true := by
    rw [isPlainDigit_eq_isDigit]
    exact Nat.isDigit_of_mem_toDigits (by decide) (by decide) member
  refine plainNumeral_iff.mpr ⟨allAre_iff.mpr ⟨Nat.toDigits_ne_nil, plain⟩, ?_⟩
  rw [numberFrom_eq plain, Nat.ofDigitChars_toDigits (by decide) (by decide)]

theorem numeral_toDigits (n : Nat) : Numeral (Nat.toDigits 10 n) n :=
  (plainNumeral_toDigits n).1

theorem toList_ofNat (n : Nat) : (ofNat n).toList = Nat.toDigits 10 n :=
  String.toList_ofList

end Digits

section Letters

variable {c : Char}

theorem toLower_eq_self (apart : 0x41 ≤ c.toNat → 0x5a < c.toNat) : c.toLower = c := by
  refine dif_neg ?_
  rintro ⟨least, most⟩
  have passed := apart (UInt32.le_iff_toNat_le.mp least)
  exact Nat.not_lt_of_le (UInt32.le_iff_toNat_le.mp most) passed

theorem toLower_of_isDigit (digit : isDigit c = true) : c.toLower = c := by
  refine toLower_eq_self fun least => ?_
  by_cases low : c.toNat < 0x80
  · have plain := isPlainDigit_iff.mp (isPlainDigit_of_isDigit digit low)
    omega
  · omega

theorem caseRuns_apart : ∀ run ∈ caseRuns, ∀ base ∈ zeros,
    run.last < base ∨ base + 10 ≤ run.first := by
  decide +kernel

/-- Lower case never leads to a digit. It leads from another script to a plain letter only where
the unit of temperature becomes a k. -/
theorem caseRuns_images : ∀ run ∈ caseRuns, run.first = 0x41 ∧ run.last = 0x5a ∨
    run.image = 0x6b ∧ run.first = run.last ∨
    0x80 ≤ run.image ∧
      ∀ base ∈ zeros, run.image + (run.last - run.first) < base ∨ base + 10 ≤ run.image := by
  decide +kernel

theorem CaseRun.image?_eq_some {run : CaseRun} {n m : Nat} (known : run.image? n = some m) :
    run.first ≤ n ∧ n ≤ run.last ∧ m = n - run.first + run.image := by
  simp only [CaseRun.image?] at known
  split at known
  next within => exact ⟨within.1, within.2.1, (Option.some.inj known).symm⟩
  next => cases known

theorem lowerChar_of_isDigit (digit : isDigit c = true) : lowerChar c = c := by
  obtain ⟨base, known, least, most⟩ := isDigit_iff.mp digit
  have none : caseRuns.findSome? (·.image? c.toNat) = .none := by
    refine List.findSome?_eq_none_iff.mpr fun run member => ?_
    have apart := caseRuns_apart run member base known
    rw [CaseRun.image?, if_neg (by omega)]
  rw [lowerChar, none]

theorem toNat_ofNat (n : Nat) : (Char.ofNat n).toNat = if n.isValidChar then n else 0 := by
  by_cases valid : n.isValidChar
  · rw [if_pos valid]
    exact congrArg Char.toNat (dif_pos valid)
  · rw [if_neg valid]
    exact congrArg Char.toNat (dif_neg valid)

/-- What a letter of another script becomes is no digit, and no plain letter but a k. -/
theorem lowerChar_cases (other : 0x80 ≤ c.toNat) :
    lowerChar c = c ∨ lowerChar c = 'k' ∨ lowerChar c = '\x00' ∨
      isDigit (lowerChar c) = false ∧ 0x80 ≤ (lowerChar c).toNat := by
  cases found : caseRuns.findSome? (·.image? c.toNat) with
  | none => exact .inl (by rw [lowerChar, found])
  | some m =>
    have becomes : lowerChar c = Char.ofNat m := by rw [lowerChar, found]
    rw [becomes]
    obtain ⟨run, member, image⟩ := List.exists_of_findSome?_eq_some found
    obtain ⟨least, most, rfl⟩ := CaseRun.image?_eq_some image
    -- A run of plain letters is out of the question, as the character is beyond them.
    obtain plain | ⟨kelvin, single⟩ | ⟨high, apart⟩ := caseRuns_images run member
    · omega
    · have same : c.toNat - run.first + run.image = 0x6b := by omega
      exact .inr (.inl (congrArg Char.ofNat same))
    · have shown := toNat_ofNat (c.toNat - run.first + run.image)
      split at shown
      next =>
        refine .inr (.inr (.inr ⟨?_, by omega⟩))
        rw [← Bool.not_eq_true, isDigit_iff]
        rintro ⟨base, known, reached, passed⟩
        have := apart base known
        omega
      next => exact .inr (.inr (.inl (Char.toNat_inj.mp shown)))

end Letters

section Blanks

variable {c : Char} {text before : List Char}

theorem digits_visible : ∀ base ∈ zeros, ∀ k < 10, isBlank (Char.ofNat (base + k)) = false := by
  decide +kernel

theorem isBlank_of_isDigit (digit : isDigit c = true) : isBlank c = false := by
  obtain ⟨base, known, least, most⟩ := isDigit_iff.mp digit
  have visible := digits_visible base known (c.toNat - base) (by omega)
  rwa [Nat.add_sub_cancel' least, Char.ofNat_toNat] at visible

theorem images_visible : ∀ run ∈ caseRuns, ∀ k ≤ run.last - run.first,
    isBlank (Char.ofNat (k + run.image)) = false := by
  decide +kernel

theorem isBlank_lowerChar (visible : isBlank c = false) : isBlank (lowerChar c) = false := by
  cases found : caseRuns.findSome? (·.image? c.toNat) with
  | none => simpa only [lowerChar, found] using visible
  | some m =>
    obtain ⟨run, member, image⟩ := List.exists_of_findSome?_eq_some found
    obtain ⟨least, most, rfl⟩ := CaseRun.image?_eq_some image
    simpa only [lowerChar, found] using
      images_visible run member (c.toNat - run.first) (Nat.sub_le_sub_right most _)

theorem ascii_visible : ∀ n < 0x80, isBlank (Char.ofNat n).toLower = isBlank (Char.ofNat n) := by
  decide +kernel

theorem isSolid_lowerAfter (solid : IsSolid text) : IsSolid (lowerAfter before text) := by
  induction text generalizing before with
  | nil => exact isSolid_nil
  | cons c rest ih =>
    obtain ⟨visible, others⟩ := isSolid_cons.mp solid
    simp only [lowerAfter]
    refine isSolid_append.mpr ⟨?_, ih others⟩
    -- The dotted capital becomes two characters; a sigma depends on where it stands.
    split
    · exact isSolid_cons.mpr ⟨by decide, isSolid_cons.mpr ⟨by decide, isSolid_nil⟩⟩
    · split
      · split <;> exact isSolid_cons.mpr ⟨by decide, isSolid_nil⟩
      · split
        next low =>
          have same := ascii_visible c.toNat low
          rw [Char.ofNat_toNat, visible] at same
          exact isSolid_cons.mpr ⟨same, isSolid_nil⟩
        next => exact isSolid_cons.mpr ⟨isBlank_lowerChar visible, isSolid_nil⟩

end Blanks

end Timetable.Text
