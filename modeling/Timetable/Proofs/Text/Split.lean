import Mathlib.Data.List.DropRight
import Timetable.Text.Blank
import Timetable.Text.Pieces

/-! Texts taken apart and put together.

Words are what blanks part, and pieces are what a mark parts. Joining words by single blanks, or
pieces by the mark, is undone by parting the result again.
-/

set_option autoImplicit false

namespace Timetable.Text

section Blanks

variable {text word token : List Char} {tokens : List (List Char)} {c : Char}

def IsSolid (text : List Char) : Prop :=
  ∀ c ∈ text, isBlank c = false

theorem isSolid_append {left right : List Char} :
    IsSolid (left ++ right) ↔ IsSolid left ∧ IsSolid right :=
  List.forall_mem_append

theorem isSolid_cons : IsSolid (c :: text) ↔ isBlank c = false ∧ IsSolid text :=
  List.forall_mem_cons

theorem isSolid_nil : IsSolid [] :=
  fun _ member => absurd member List.not_mem_nil

theorem isSolid_reverse (solid : IsSolid text) : IsSolid text.reverse :=
  fun c member => solid c (List.mem_reverse.mp member)

theorem dropWhile_isBlank (solid : IsSolid text) : text.dropWhile isBlank = text := by
  cases text with
  | nil => rfl
  | cons c rest => rw [List.dropWhile_cons, (isSolid_cons.mp solid).1, if_neg Bool.false_ne_true]

theorem strip_eq_self (solid : IsSolid text) : strip text = text := by
  rw [strip, trim, dropWhile_isBlank solid, dropWhile_isBlank (isSolid_reverse solid),
    List.reverse_reverse]

theorem strip_strip (text : List Char) : strip (strip text) = strip text := by
  have leading : (strip text).dropWhile isBlank = strip text := by
    refine List.dropWhile_eq_self_iff.mpr fun positive => ?_
    -- What comes first once the leading blanks are gone stays first.
    have kept : strip text <+: text.dropWhile isBlank := List.rdropWhile_prefix _ _
    have longer := kept.length_le
    rw [kept.getElem positive]
    exact List.dropWhile_get_zero_not isBlank text (Nat.lt_of_lt_of_le positive longer)
  conv_lhs => rw [strip, trim, leading]
  exact List.rdropWhile_idempotent _ _

theorem solid_of_mem_wordsFrom (solid : IsSolid word) (member : token ∈ wordsFrom word text) :
    token ≠ [] ∧ IsSolid token := by
  -- The word that is being read is held in reverse, and turned where it ends.
  have whole {word : List Char} (solid : IsSolid word) (filled : ¬word.isEmpty = true) :
      word.reverse ≠ [] ∧ IsSolid word.reverse :=
    ⟨fun none => filled (List.isEmpty_iff.mpr (List.reverse_eq_nil_iff.mp none)),
      isSolid_reverse solid⟩
  induction text generalizing word with
  | nil =>
    simp only [wordsFrom] at member
    split at member
    next => cases member
    next filled => exact List.mem_singleton.mp member ▸ whole solid filled
  | cons c rest ih =>
    simp only [wordsFrom] at member
    split at member
    next =>
      split at member
      next => exact ih isSolid_nil member
      next filled =>
        cases List.mem_cons.mp member with
        | inl same => exact same ▸ whole solid filled
        | inr later => exact ih isSolid_nil later
    next visible => exact ih (isSolid_cons.mpr ⟨eq_false_of_ne_true visible, solid⟩) member

theorem solid_of_mem_words (member : token ∈ words text) : token ≠ [] ∧ IsSolid token :=
  solid_of_mem_wordsFrom isSolid_nil member

theorem wordsFrom_append (solid : IsSolid token) (text : List Char) :
    wordsFrom word (token ++ text) = wordsFrom (token.reverse ++ word) text := by
  induction token generalizing word with
  | nil => rfl
  | cons c rest ih =>
    obtain ⟨visible, others⟩ := isSolid_cons.mp solid
    rw [List.cons_append, wordsFrom, visible, if_neg Bool.false_ne_true, ih others,
      List.reverse_cons, List.append_assoc, List.singleton_append]

theorem words_intercalate (solid : ∀ token ∈ tokens, token ≠ [] ∧ IsSolid token) :
    words ([' '].intercalate tokens) = tokens := by
  induction tokens with
  | nil => rfl
  | cons token rest ih =>
    obtain ⟨⟨filled, first⟩, others⟩ := List.forall_mem_cons.mp solid
    have ends : token.reverse.isEmpty = false := by
      rw [List.isEmpty_reverse, List.isEmpty_eq_false_iff]
      exact filled
    -- The last word is ended by the end of the text, each other one by a blank.
    cases rest with
    | nil =>
      have read := @wordsFrom_append [] _ first []
      rw [List.append_nil, List.append_nil] at read
      rw [List.intercalate_singleton, words, read, wordsFrom, ends, if_neg Bool.false_ne_true,
        List.reverse_reverse]
    | cons next rest =>
      rw [List.intercalate_cons_cons, words, List.append_assoc, wordsFrom_append first,
        List.append_nil, List.singleton_append, wordsFrom, if_pos (by decide), ends,
        if_neg Bool.false_ne_true, List.reverse_reverse]
      exact congrArg (token :: ·) (ih others)

end Blanks

section Marks

variable {mark : Char}

theorem modifyHead_nil_append (parts : List (List Char)) :
    parts.modifyHead ([] ++ ·) = parts := by
  cases parts <;> rfl

theorem piecesFrom_eq (piece text : List Char) :
    piecesFrom mark piece text = (text.splitOn mark).modifyHead (piece.reverse ++ ·) := by
  induction text generalizing piece with
  | nil => simp [piecesFrom, List.splitOn_nil]
  | cons c rest ih =>
    rw [piecesFrom, List.splitOn, List.splitOnP_cons_eq_if_modifyHead]
    by_cases same : c = mark
    · rw [if_pos same, if_pos (beq_iff_eq.mpr same), ih, List.modifyHead_cons, List.append_nil,
        List.reverse_nil]
      exact congrArg (piece.reverse :: ·) (modifyHead_nil_append _)
    · rw [if_neg same, if_neg (by simpa using same), ih, List.modifyHead_modifyHead, List.splitOn]
      simp [Function.comp_def]

theorem pieces_eq_splitOn (text : List Char) : pieces mark text = text.splitOn mark := by
  rw [pieces, piecesFrom_eq, List.reverse_nil, modifyHead_nil_append]

theorem intercalate_pieces (text : List Char) : [mark].intercalate (pieces mark text) = text := by
  rw [pieces_eq_splitOn, List.intercalate_splitOn]

theorem pieces_ne_nil (text : List Char) : pieces mark text ≠ [] := by
  rw [pieces_eq_splitOn]
  exact List.splitOnP_ne_nil _ text

theorem free_of_mem_piecesFrom {piece text part : List Char} (free : mark ∉ piece)
    (member : part ∈ piecesFrom mark piece text) : mark ∉ part := by
  induction text generalizing piece with
  | nil => exact fun inside => free (List.mem_reverse.mp (List.mem_singleton.mp member ▸ inside))
  | cons c rest ih =>
    simp only [piecesFrom] at member
    split at member
    next =>
      cases List.mem_cons.mp member with
      | inl same => exact fun inside => free (List.mem_reverse.mp (same ▸ inside))
      | inr later => exact ih List.not_mem_nil later
    next other =>
      exact ih (fun inside => (List.mem_cons.mp inside).elim (other ·.symm) free) member

theorem free_of_mem_pieces {text part : List Char} (member : part ∈ pieces mark text) :
    mark ∉ part :=
  free_of_mem_piecesFrom List.not_mem_nil member

theorem mem_intercalate {parts : List (List Char)} {part : List Char} {c : Char}
    (member : part ∈ parts) (inside : c ∈ part) : c ∈ [mark].intercalate parts := by
  induction parts with
  | nil => cases member
  | cons first rest ih =>
    cases rest with
    | nil =>
      rw [List.intercalate_singleton]
      exact List.mem_singleton.mp member ▸ inside
    | cons next rest =>
      rw [List.intercalate_cons_cons]
      cases List.mem_cons.mp member with
      | inl same => exact List.mem_append_left _ (List.mem_append_left _ (same ▸ inside))
      | inr later => exact List.mem_append_right _ (ih later)

theorem mem_of_mem_pieces {text part : List Char} {c : Char} (member : part ∈ pieces mark text)
    (inside : c ∈ part) : c ∈ text := by
  rw [← @intercalate_pieces mark text]
  exact mem_intercalate member inside

theorem pieces_intercalate {parts : List (List Char)} (free : ∀ part ∈ parts, mark ∉ part)
    (some : parts ≠ []) : pieces mark ([mark].intercalate parts) = parts := by
  rw [pieces_eq_splitOn, List.splitOn_intercalate mark free some]

theorem intercalate_append {left right : List (List Char)} (some : left ≠ [])
    (more : right ≠ []) : [mark].intercalate (left ++ right) =
      [mark].intercalate left ++ mark :: [mark].intercalate right := by
  induction left with
  | nil => exact absurd rfl some
  | cons first rest ih =>
    cases rest with
    | nil =>
      cases right with
      | nil => exact absurd rfl more
      | cons next others =>
        rw [List.singleton_append, List.intercalate_cons_cons, List.intercalate_singleton,
          List.append_assoc, List.singleton_append]
    | cons next others =>
      have whole := ih (List.cons_ne_nil next others)
      rw [List.cons_append] at whole ⊢
      rw [List.cons_append, List.intercalate_cons_cons, whole, List.intercalate_cons_cons]
      simp only [List.append_assoc]

theorem intercalate_flatten {groups : List (List (List Char))}
    (some : ∀ group ∈ groups, group ≠ []) :
    [mark].intercalate (groups.map [mark].intercalate) = [mark].intercalate groups.flatten := by
  induction groups with
  | nil => rfl
  | cons group rest ih =>
    obtain ⟨first, others⟩ := List.forall_mem_cons.mp some
    cases rest with
    | nil => simp
    | cons next rest =>
      have more : (next :: rest).flatten ≠ [] := by
        rw [List.flatten_cons]
        exact List.append_ne_nil_of_left_ne_nil (others next List.mem_cons_self) _
      rw [List.flatten_cons, intercalate_append first more, ← ih others, List.map_cons, List.map_cons,
        List.intercalate_cons_cons, List.append_assoc, List.singleton_append]

end Marks

end Timetable.Text
