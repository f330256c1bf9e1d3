/-
**The pieces of a text.**

Tag trees are written with separators and paths with slashes; both are read piece by piece.

* `pieces_eq_splitOn`: the pieces of a text are those of the standard library;
* `pieces_ne_nil`: there is always one;
* `pieces_separator`, `pieces_character`: the pieces of a text with one character more;
* `separator_notMem_of_mem_pieces`: no piece holds the separator;
* `joinPieces_pieces`, `pieces_joinPieces`: a text is its pieces with the separator between them, and
  texts without the separator are the pieces of what they make up.
-/

import Mathlib.Data.List.Basic
import TagAudit.Tags.Tree

namespace TagAudit

/-- The pieces of a text are the ones into which the standard library splits it. -/
theorem pieces_eq_splitOn (separator : Char) (text : List Char) :
    pieces separator text = text.splitOn separator := by
  induction text with
  | nil => rw [pieces, List.splitOn_nil]
  | cons c rest step =>
    rw [pieces, List.splitOn_cons_eq_if_modifyHead, step]
    by_cases isSeparator : c = separator
    · simp [isSeparator]
    · cases split : rest.splitOn separator with
      | nil => exact absurd split (List.splitOn_ne_nil _ _)
      | cons first others => simp [isSeparator]

theorem pieces_ne_nil (separator : Char) (text : List Char) : pieces separator text ≠ [] := by
  rw [pieces_eq_splitOn]
  exact List.splitOn_ne_nil _ _

theorem pieces_separator (separator : Char) (rest : List Char) :
    pieces separator (separator :: rest) = [] :: pieces separator rest := by
  rw [pieces, if_pos rfl]

theorem pieces_character {separator c : Char} (different : c ≠ separator) {rest first : List Char}
    {others : List (List Char)} (split : pieces separator rest = first :: others) :
    pieces separator (c :: rest) = (c :: first) :: others := by
  rw [pieces, if_neg different, split]

theorem separator_notMem_of_mem_pieces {separator : Char} {text piece : List Char}
    (member : piece ∈ pieces separator text) : separator ∉ piece := by
  induction text generalizing piece with
  | nil =>
    obtain rfl := List.mem_singleton.mp member
    exact List.not_mem_nil
  | cons c rest step =>
    by_cases isSeparator : c = separator
    · subst isSeparator
      rw [pieces_separator] at member
      rcases List.mem_cons.mp member with rfl | behind
      · exact List.not_mem_nil
      · exact step behind
    · obtain ⟨first, others, split⟩ := List.exists_cons_of_ne_nil (pieces_ne_nil separator rest)
      rw [pieces_character isSeparator split] at member
      rw [split] at step
      rcases List.mem_cons.mp member with rfl | behind
      · rw [List.mem_cons, not_or]
        exact ⟨Ne.symm isSeparator, step List.mem_cons_self⟩
      · exact step (List.mem_cons_of_mem first behind)

/-! ### Pieces written one after the other -/

/-- Pieces are joined as the standard library joins them. -/
theorem joinPieces_eq_intercalate (separator : Char) (parts : List (List Char)) :
    joinPieces separator parts = [separator].intercalate parts := by
  fun_induction joinPieces separator parts with
  | case1 => rw [List.intercalate_nil]
  | case2 piece => rw [List.intercalate_singleton]
  | case3 piece rest several step =>
    rw [List.intercalate_cons_of_ne_nil several, step, List.append_assoc, List.singleton_append]

theorem joinPieces_pieces (separator : Char) (text : List Char) :
    joinPieces separator (pieces separator text) = text := by
  rw [joinPieces_eq_intercalate, pieces_eq_splitOn, List.intercalate_splitOn]

/-- Texts without the separator are the pieces of what they make up, if there is one at all. -/
theorem pieces_joinPieces {separator : Char} {texts : List String} (notEmpty : texts ≠ [])
    (apart : ∀ text ∈ texts, separator ∉ text.toList) :
    (pieces separator (joinPieces separator (texts.map String.toList))).map String.ofList =
      texts := by
  have split : pieces separator (joinPieces separator (texts.map String.toList)) =
      texts.map String.toList := by
    rw [joinPieces_eq_intercalate, pieces_eq_splitOn]
    refine List.splitOn_intercalate separator ?_ (mt List.map_eq_nil_iff.mp notEmpty)
    intro part member
    obtain ⟨text, isText, rfl⟩ := List.mem_map.mp member
    exact apart text isText
  rw [split, List.map_map]
  simp [Function.comp_def]

end TagAudit
