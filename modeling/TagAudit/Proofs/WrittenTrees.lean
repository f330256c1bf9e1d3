/-
**A tag tree is read as it was written.**

A tree is written as its tags with `>` between them. Every text but the empty one is the written form
of a tree, and of one tree only. Three kinds of trees are never read: those without a tag, those with
the separator in a tag, and the lone empty tag, whose text asks for nothing.

* `TagTree.IsWritable`: the trees that have a written form;
* `TagTree.parse?_eq_ite`: every text but the empty one is read as its pieces;
* `TagTree.text_of_parse?`: a text that is read as a tree is what the tree is written as;
* `TagTree.parse?_text`: what a tree is written as is read as that tree;
* `TagTree.reading_inverts_writing`: which texts are read as a tree, and as which one.
-/

import TagAudit.Proofs.Pieces

namespace TagAudit

namespace TagTree

/-- The tree can be told from its written form. A lone empty tag cannot: its text is empty, and the
empty text is no tree. -/
structure IsWritable (tree : TagTree) : Prop where
  someTag : tree.tags ≠ []
  separated : ∀ tag ∈ tree.tags, '>' ∉ tag.toList
  notLoneEmpty : tree.tags ≠ [""]

/-- A tree is written with the separator between its tags. -/
theorem text_eq_intercalate (tree : TagTree) : tree.text = String.intercalate ">" tree.tags := by
  apply String.toList_injective
  rw [text, String.toList_ofList, joinPieces_eq_intercalate, String.toList_intercalate]
  rfl

/-! ### Texts that are read -/

/-- Every text but the empty one is read as its pieces. -/
theorem parse?_eq_ite (text : String) :
    parse? text =
      if text = "" then none else some ⟨(pieces '>' text.toList).map String.ofList⟩ := by
  unfold parse?
  simp only [String.isEmpty_iff]
  rfl

theorem parse?_eq_none_iff (text : String) : parse? text = none ↔ text = "" := by
  rw [parse?_eq_ite, ite_eq_left_iff]
  simp

theorem parse?_eq_some_iff (text : String) (tree : TagTree) :
    parse? text = some tree ↔
      text ≠ "" ∧ (pieces '>' text.toList).map String.ofList = tree.tags := by
  rw [parse?_eq_ite, Option.ite_none_left_eq_some, Option.some.injEq]
  exact and_congr_right fun _ => ⟨congrArg tags, congrArg mk⟩

/-- **A text that is read as a tree is what the tree is written as.** -/
theorem text_of_parse? {text : String} {tree : TagTree} (read : parse? text = some tree) :
    tree.text = text := by
  rw [TagTree.text, ← ((parse?_eq_some_iff text tree).mp read).2, List.map_map]
  have back : String.toList ∘ String.ofList = id := funext fun _ => String.toList_ofList
  rw [back, List.map_id]
  show String.ofList (joinPieces '>' (pieces '>' text.toList)) = text
  rw [joinPieces_pieces, String.ofList_toList]

theorem isWritable_of_parse? {text : String} {tree : TagTree} (read : parse? text = some tree) :
    tree.IsWritable := by
  obtain ⟨notEmpty, isTags⟩ := (parse?_eq_some_iff text tree).mp read
  refine ⟨?_, fun tag member => ?_, fun lone => notEmpty ?_⟩
  · rw [← isTags]
    exact mt List.map_eq_nil_iff.mp (pieces_ne_nil '>' text.toList)
  · rw [← isTags] at member
    obtain ⟨piece, isPiece, rfl⟩ := List.mem_map.mp member
    rw [String.toList_ofList]
    exact separator_notMem_of_mem_pieces isPiece
  · rw [← text_of_parse? read, text_eq_intercalate, lone, String.intercalate_singleton]

/-! ### Trees that are written -/

/-- **What a tree is written as is read as that tree.** -/
theorem parse?_text {tree : TagTree} (writable : tree.IsWritable) :
    parse? tree.text = some tree := by
  have isTags : (pieces '>' tree.text.toList).map String.ofList = tree.tags := by
    rw [TagTree.text, String.toList_ofList]
    exact pieces_joinPieces writable.someTag writable.separated
  refine (parse?_eq_some_iff tree.text tree).mpr ⟨fun empty => ?_, isTags⟩
  rw [empty] at isTags
  exact writable.notLoneEmpty isTags.symm

/-- **Reading inverts writing.** The empty text is no tree, and every other text is one: the tree
whose tags, with `>` between them, make up the text. The trees that are read are all those that have
a tag, no `>` in a tag, and more than a lone empty tag. -/
theorem reading_inverts_writing (text : String) :
    (parse? text = none ↔ text = "") ∧
      ∀ tree : TagTree, parse? text = some tree ↔
        tree.IsWritable ∧ String.intercalate ">" tree.tags = text := by
  refine ⟨parse?_eq_none_iff text, fun tree => ⟨fun read => ?_, ?_⟩⟩
  · rw [← text_eq_intercalate]
    exact ⟨isWritable_of_parse? read, text_of_parse? read⟩
  · rintro ⟨writable, rfl⟩
    rw [← text_eq_intercalate]
    exact parse?_text writable

-- Empty tags at the start, in the middle and at the end are tags like any other.
example : parse? ">tag>>" = some ⟨["", "tag", "", ""]⟩ := by decide

end TagTree

end TagAudit
