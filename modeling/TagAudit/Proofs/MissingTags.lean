/-
**The missing tags are an ordered difference.**

Each recognized marker takes one occurrence of its tag out of the tree, the first one that is left.
Of every tag the first occurrences go, as many as the markers provide, and what stays keeps the
order of the tree.

* `leftOpen` says which occurrences stay, by the number of equal tags before each;
* `diff_eq_leftBehind`: taking tags out one by one leaves these, also in the middle of a tree;
* `missingTags_exact`: when nothing is missing, and what is missing otherwise.
-/

import Mathlib.Data.List.Count
import TagAudit.Proofs.WrittenTrees
import TagAudit.Tags.Resolve

namespace TagAudit

/-- The tags of a written tree: the pieces between its separators. -/
def requiredTags (text : String) : List String := (text.toList.splitOn '>').map String.ofList

/-- The methods of the markers that are calls in the namespace `allure`. -/
def calledMethods (markers : List Marker) : List String :=
  (markers.filter fun marker => marker.isCall = true ∧ marker.space = "allure").map Marker.method

/-- The required tags without, of each tag, its first occurrences: as many as there are provided, if
there are so many. An occurrence is one of the first `n` if fewer than `n` come before it. -/
def leftOpen (required provided : List String) : List String :=
  (required.zipIdx.filter fun occurrence =>
    min (required.count occurrence.1) (provided.count occurrence.1) ≤
      (required.take occurrence.2).count occurrence.1).map Prod.fst

/-! ### Tags taken out of a tree -/

/-- What stays of the tags behind some others, if the provided ones take their first occurrences out
of all of them. -/
def leftBehind (before provided : List String) : List String → List String
  | [] => []
  | tag :: rest =>
    if provided.count tag ≤ before.count tag then tag :: leftBehind (before ++ [tag]) provided rest
    else leftBehind (before ++ [tag]) provided rest

/-- The tags that stay are told by what comes before each of them. -/
theorem leftBehind_eq (before provided rest : List String) :
    leftBehind before provided rest =
      ((rest.zipIdx before.length).filter fun occurrence =>
        provided.count occurrence.1 ≤
          ((before ++ rest).take occurrence.2).count occurrence.1).map Prod.fst := by
  induction rest generalizing before with
  | nil => rfl
  | cons tag rest step =>
    have onward := step (before ++ [tag])
    rw [List.length_append, List.length_singleton, List.append_assoc, List.singleton_append] at onward
    rw [leftBehind, onward, List.zipIdx_cons, List.filter_cons]
    by_cases stays : provided.count tag ≤ before.count tag
    · simp [stays]
    · simp [stays]

/-- **Tags taken out one by one leave what stays.** The tags that are still to be taken out are those
provided, less those that were met before. -/
theorem diff_eq_leftBehind {before provided pending rest : List String}
    (counts : ∀ tag, pending.count tag = provided.count tag - before.count tag) :
    rest.diff pending = leftBehind before provided rest := by
  induction rest generalizing before pending with
  | nil => rw [List.nil_diff, leftBehind]
  | cons tag rest step =>
    have here := counts tag
    rw [List.cons_diff, leftBehind]
    by_cases stays : provided.count tag ≤ before.count tag
    · have notOpen : tag ∉ pending := by
        rw [← List.count_eq_zero]
        omega
      rw [if_neg notOpen, if_pos stays]
      congr 1
      refine step fun other => ?_
      have there := counts other
      rw [List.count_append, List.count_singleton]
      split
      next same =>
        obtain rfl := eq_of_beq same
        omega
      next => omega
    · have isOpen : tag ∈ pending := by
        rw [← List.count_pos_iff]
        omega
      rw [if_pos isOpen, if_neg stays]
      refine step fun other => ?_
      have there := counts other
      rw [List.count_append, List.count_singleton, List.count_erase]
      split
      next same =>
        obtain rfl := eq_of_beq same
        omega
      next => omega

/-- An occurrence of a tag comes behind fewer equal ones than there are in all. -/
theorem count_take_lt {tags : List String} {tag : String} {index : Nat}
    (occurs : (tag, index) ∈ tags.zipIdx) : (tags.take index).count tag < tags.count tag := by
  obtain ⟨inside, isTag⟩ := List.mem_zipIdx' occurs
  have split : tags = tags.take index ++ tag :: tags.drop (index + 1) := by
    rw [isTag, ← List.drop_eq_getElem_cons inside, List.take_append_drop]
  have counted := congrArg (List.count tag) split
  rw [List.count_append, List.count_cons_self] at counted
  omega

/-- **What the provided tags leave of a tree.** -/
theorem removeProvided_eq_leftOpen (required provided : List String) :
    removeProvided required provided = leftOpen required provided := by
  unfold removeProvided
  rw [← List.diff_eq_foldl, @diff_eq_leftBehind [] provided provided required (by simp),
    leftBehind_eq, leftOpen]
  congr 1
  refine List.filter_congr fun occurrence occurs => ?_
  have fewer := count_take_lt occurs
  rw [decide_eq_decide, List.nil_append]
  omega

/-- Nothing is left if and only if every tag is provided as often as it is required. -/
theorem leftOpen_eq_nil_iff (required provided : List String) :
    leftOpen required provided = [] ↔ ∀ tag, required.count tag ≤ provided.count tag := by
  rw [← removeProvided_eq_leftOpen, removeProvided, ← List.diff_eq_foldl,
    List.eq_nil_iff_forall_not_mem]
  refine forall_congr' fun tag => ?_
  rw [← List.count_eq_zero, List.count_diff]
  omega

/-! ### Definitions with their markers -/

theorem providedTags_eq (markers : List Marker) : providedTags markers = calledMethods markers := by
  unfold providedTags calledMethods
  congr 1
  refine List.filter_congr fun marker _ => ?_
  rw [Marker.isRecognized, Bool.eq_iff_iff, Bool.and_eq_true, beq_iff_eq, decide_eq_true_eq]
  rfl

theorem parse?_eq (text : String) :
    TagTree.parse? text = if text = "" then none else some ⟨requiredTags text⟩ := by
  rw [TagTree.parse?_eq_ite, pieces_eq_splitOn]
  rfl

/-- The missing tags of a definition with a tree. -/
theorem missingTags_some (markers : List Marker) (text : String) (strict : Bool) :
    missingTags markers (some text) strict =
      if text = "" ∨ (calledMethods markers = [] ∧ strict = false) ∨
          leftOpen (requiredTags text) (calledMethods markers) = []
      then none else some (leftOpen (requiredTags text) (calledMethods markers)) := by
  unfold missingTags
  rw [Option.bind_eq_bind, Option.bind_some, parse?_eq, providedTags_eq]
  by_cases empty : text = ""
  · simp [empty]
  · simp only [empty, if_false, false_or, Option.bind_eq_bind, Option.bind_some,
      removeProvided_eq_leftOpen, List.isEmpty_iff, Bool.and_eq_true, Bool.not_eq_true']
    by_cases accepted : calledMethods markers = [] ∧ strict = false
    · simp only [accepted, and_self, if_true, true_or]
    · simp only [accepted, if_false, false_or]

/-- **The missing tags are an ordered difference.** Nothing is missing if and only if there is no
tree or an empty one, no marker provides a tag and the check is not strict, or every tag is provided
as often as the tree has it. Otherwise what is missing is not empty: it is the tree without, of each
tag, its first occurrences, as many as are provided. -/
theorem missingTags_exact (markers : List Marker) (tree : Option String) (strict : Bool) :
    (missingTags markers tree strict = none ↔
      tree = none ∨ tree = some "" ∨ (calledMethods markers = [] ∧ strict = false) ∨
        ∃ text, tree = some text ∧
          ∀ tag, (requiredTags text).count tag ≤ (calledMethods markers).count tag) ∧
    ∀ missing, missingTags markers tree strict = some missing →
      ∃ text, tree = some text ∧ missing ≠ [] ∧
        missing = leftOpen (requiredTags text) (calledMethods markers) := by
  cases tree with
  | none =>
    refine ⟨iff_of_true rfl (.inl rfl), fun missing found => ?_⟩
    cases found
  | some text =>
    rw [missingTags_some]
    constructor
    · rw [ite_eq_left_iff]
      simp only [reduceCtorEq, imp_false, not_not, Option.some.injEq, false_or, exists_eq_left',
        leftOpen_eq_nil_iff]
    · intro missing found
      split at found
      next => cases found
      next someLeft =>
        obtain rfl := Option.some.inj found
        exact ⟨text, rfl, fun nothing => someLeft (.inr (.inr nothing)), rfl⟩

-- Two markers for one tag take its first two occurrences; an empty tag counts like any other.
example : leftOpen ["tag", "", "title", "tag", "tag"] ["tag", "link", "tag"] =
    ["", "title", "tag"] := by decide

end TagAudit
