/-
**More markers leave no more tags open.**

Markers that are put between those of a definition take further tags out of its tree and put none
back: what is missing then is part of what was missing before, in the same order. This holds for
definitions that are checked to begin with. Without strictness a definition that has no marker for a
tag is accepted as it is, and its first one makes it answer for the whole tree.

* `removeProvided_sublist`: more tags taken out of fewer leave fewer, in order;
* `missingTags_of_checked`: what a checked definition is missing is what its markers leave of the
  tree;
* `stillOpen_sublist`: markers that are put in leave no more tags open;
* `missingTags_of_inserted`: what is missing before markers are put in, and after.
-/

import TagAudit.Tags.Resolve

namespace TagAudit

/-! ### Tags taken out of a tree -/

/-- **More tags taken out of fewer leave fewer.** The lists are worked off from their first tag on,
and what one of them has left stays part of what the other has left. -/
theorem removeProvided_sublist {fewer required provided more : List String}
    (part : fewer.Sublist required) (inserted : provided.Sublist more) :
    (removeProvided fewer more).Sublist (removeProvided required provided) := by
  unfold removeProvided
  induction inserted generalizing fewer required with
  | slnil => exact part
  | cons tag inserted step =>
    -- A tag that only the longer list provides is taken out on one side.
    have smaller : (fewer.erase tag).Sublist required := List.erase_sublist.trans part
    rw [List.foldl_cons]
    exact step smaller
  | cons_cons tag inserted step =>
    rw [List.foldl_cons, List.foldl_cons]
    exact step (part.erase tag)

theorem removeProvided_nil (provided : List String) : removeProvided [] provided = [] :=
  List.sublist_nil.mp (removeProvided_sublist (List.Sublist.refl []) (List.nil_sublist provided))

theorem providedTags_sublist {markers more : List Marker} (inserted : markers.Sublist more) :
    (providedTags markers).Sublist (providedTags more) :=
  (inserted.filter Marker.isRecognized).map Marker.method

/-! ### Definitions that are checked -/

/-- The tags that a tree asks for: none if there is no tree. -/
def askedFor (tree : Option String) : List String :=
  ((tree.bind TagTree.parse?).map TagTree.tags).getD []

/-- The tags of the tree that the markers leave open. -/
def stillOpen (markers : List Marker) (tree : Option String) : List String :=
  removeProvided (askedFor tree) (providedTags markers)

/-- A definition is checked if the check is strict, or if it has a marker that provides a tag. -/
def IsChecked (markers : List Marker) (strict : Bool) : Prop :=
  strict = true ∨ ∃ marker ∈ markers, marker.isRecognized = true

instance (markers : List Marker) (strict : Bool) : Decidable (IsChecked markers strict) :=
  inferInstanceAs (Decidable (_ ∨ _))

theorem IsChecked.of_inserted {markers more : List Marker} {strict : Bool}
    (checked : IsChecked markers strict) (inserted : markers.Sublist more) :
    IsChecked more strict := by
  rcases checked with isStrict | ⟨marker, member, recognized⟩
  · exact .inl isStrict
  · exact .inr ⟨marker, inserted.subset member, recognized⟩

theorem IsChecked.not_passed {markers : List Marker} {strict : Bool}
    (checked : IsChecked markers strict) :
    ((providedTags markers).isEmpty && !strict) = false := by
  rcases checked with isStrict | ⟨marker, member, recognized⟩
  · rw [isStrict, Bool.not_true, Bool.and_false]
  · have provides : marker.method ∈ providedTags markers :=
      List.mem_map_of_mem (List.mem_filter.mpr ⟨member, recognized⟩)
    rw [List.isEmpty_eq_false_iff.mpr (List.ne_nil_of_mem provides), Bool.false_and]

/-- **What a checked definition is missing** is what its markers leave of the tree, if they leave
anything. -/
theorem missingTags_of_checked {markers : List Marker} {strict : Bool}
    (checked : IsChecked markers strict) (tree : Option String) :
    missingTags markers tree strict =
      if (stillOpen markers tree).isEmpty then none else some (stillOpen markers tree) := by
  unfold missingTags stillOpen askedFor
  cases tree with
  | none => simp [removeProvided_nil]
  | some text =>
    cases read : TagTree.parse? text with
    | none => simp [read, removeProvided_nil]
    | some required => simp [read, checked.not_passed]

theorem missingTags_getD_of_checked {markers : List Marker} {strict : Bool}
    (checked : IsChecked markers strict) (tree : Option String) :
    (missingTags markers tree strict).getD [] = stillOpen markers tree := by
  rw [missingTags_of_checked checked]
  split
  next nothing => exact (List.isEmpty_iff.mp nothing).symm
  next => rfl

theorem missingTags_eq_none_iff_of_checked {markers : List Marker} {strict : Bool}
    (checked : IsChecked markers strict) (tree : Option String) :
    missingTags markers tree strict = none ↔ stillOpen markers tree = [] := by
  rw [missingTags_of_checked checked, ite_eq_left_iff, List.isEmpty_iff]
  simp

/-- **Markers that are put in leave no more tags open.** -/
theorem stillOpen_sublist {markers more : List Marker} (inserted : markers.Sublist more)
    (tree : Option String) : (stillOpen more tree).Sublist (stillOpen markers tree) :=
  removeProvided_sublist (List.Sublist.refl _) (providedTags_sublist inserted)

/-- **Added markers never make a checked definition worse.** If markers are put between those of a
definition that is checked, what is missing is part of what was missing before, in the same order,
and a definition that was accepted still is. -/
theorem missingTags_of_inserted {markers more : List Marker} (inserted : markers.Sublist more)
    (tree : Option String) {strict : Bool} (checked : IsChecked markers strict) :
    ((missingTags more tree strict).getD []).Sublist ((missingTags markers tree strict).getD []) ∧
      (missingTags markers tree strict = none → missingTags more tree strict = none) := by
  have still : IsChecked more strict := checked.of_inserted inserted
  have part : (stillOpen more tree).Sublist (stillOpen markers tree) :=
    stillOpen_sublist inserted tree
  constructor
  · rw [missingTags_getD_of_checked still, missingTags_getD_of_checked checked]
    exact part
  · rw [missingTags_eq_none_iff_of_checked still, missingTags_eq_none_iff_of_checked checked]
    intro nothing
    rw [nothing] at part
    exact List.sublist_nil.mp part

-- Without strictness the first marker for a tag makes a definition answer for its whole tree.
example : missingTags [] (some "title>tag") false = none ∧
    missingTags [⟨"allure", "title", true⟩] (some "title>tag") false = some ["tag"] := by decide

/-- A marker that is only mentioned and one that provides a tag. -/
def taggedOnce : List Marker := [⟨"allure", "title", false⟩, ⟨"allure", "tag", true⟩]

/-- The same markers with others in front of them, between them and behind. -/
def taggedTwice : List Marker :=
  [⟨"allure", "title", true⟩, ⟨"allure", "title", false⟩, ⟨"pytest", "tag", true⟩,
    ⟨"allure", "tag", true⟩, ⟨"allure", "link", true⟩, ⟨"allure", "tag", true⟩]

/-- In a tree with a repeated tag and an empty one at the end, and in one that is accepted. -/
theorem missingTags_of_inserted_repeated :
    taggedOnce.Sublist taggedTwice ∧ IsChecked taggedOnce false ∧
      missingTags taggedOnce (some "tag>title>tag>") false = some ["title", "tag", ""] ∧
      missingTags taggedTwice (some "tag>title>tag>") false = some [""] ∧
      ([""] : List String).Sublist ["title", "tag", ""] ∧
      missingTags taggedOnce (some "tag") false = none ∧
      missingTags taggedTwice (some "tag") false = none := by
  have inserted : taggedOnce.Sublist taggedTwice := by decide
  have checked : IsChecked taggedOnce false := by decide
  have before : missingTags taggedOnce (some "tag>title>tag>") false =
      some ["title", "tag", ""] := by decide
  have after : missingTags taggedTwice (some "tag>title>tag>") false = some [""] := by decide
  have accepted : missingTags taggedOnce (some "tag") false = none := by decide
  have part := (missingTags_of_inserted inserted (some "tag>title>tag>") checked).1
  rw [before, after] at part
  exact ⟨inserted, checked, before, after, part, accepted,
    (missingTags_of_inserted inserted (some "tag") checked).2 accepted⟩

end TagAudit
