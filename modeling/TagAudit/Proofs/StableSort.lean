/-
**Stable sorting by a key.**

A stable sort puts things in the order of their keys, and things with one key stay in the order in
which they were. The two laws fix the result.

* `sortedBy_mergeSort`, `filter_key_mergeSort`: the two laws of the sort;
* `SortedBy.ext`: things in the order of their keys are told by what there is for each key;
* `mergeSort_eq_of_filter_eq`: what is the same for each key is sorted alike.
-/

import Mathlib.Order.Lattice

namespace TagAudit

section KeySort

variable {α κ : Type} [LinearOrder κ] {key : α → κ} {le : α → α → Bool}

/-- The keys of the things do not descend. -/
def SortedBy (key : α → κ) (things : List α) : Prop :=
  things.Pairwise fun first second => key first ≤ key second

/-! ### The laws of the sort -/

section Laws

variable (byKey : ∀ first second, le first second = true ↔ key first ≤ key second)

include byKey

theorem trans_of_byKey (first second third : α) (before : le first second = true)
    (after : le second third = true) : le first third = true := by
  rw [byKey] at before after ⊢
  exact before.trans after

theorem total_of_byKey (first second : α) : (le first second || le second first) = true := by
  rw [Bool.or_eq_true, byKey, byKey]
  exact le_total _ _

theorem sortedBy_mergeSort (things : List α) : SortedBy key (things.mergeSort le) := by
  have sorted : (things.mergeSort le).Pairwise fun first second => le first second = true :=
    List.pairwise_mergeSort (trans_of_byKey byKey) (total_of_byKey byKey) things
  exact sorted.imp fun before => (byKey _ _).mp before

variable [DecidableEq κ]

/-- Things with one key stay in their order. -/
theorem filter_key_mergeSort (things : List α) (value : κ) :
    (things.mergeSort le).filter (key · = value) = things.filter (key · = value) := by
  have level : (things.filter (key · = value)).Pairwise fun first second =>
      le first second = true := by
    refine List.pairwise_of_forall_mem_list fun first isFirst second isSecond => ?_
    simp only [List.mem_filter, decide_eq_true_eq] at isFirst isSecond
    rw [byKey, isFirst.2, isSecond.2]
  -- A sublist that is in order already survives the sort.
  have kept : (things.filter (key · = value)).Sublist (things.mergeSort le) :=
    List.sublist_mergeSort (trans_of_byKey byKey) (total_of_byKey byKey) level List.filter_sublist
  have within := kept.filter (key · = value)
  rw [List.filter_filter] at within
  simp only [Bool.and_self] at within
  have equalLength := ((List.mergeSort_perm things le).filter (key · = value)).length_eq
  exact (within.eq_of_length equalLength.symm).symm

end Laws

/-! ### What the laws fix -/

variable [DecidableEq κ]

/-- Nothing in a sorted list has a key below that of its head, and the head of a list with the same
things for each key is one of those things. -/
theorem SortedBy.head_le {thing other : α} {rest others : List α}
    (sorted : SortedBy key (thing :: rest))
    (same : ∀ value, (thing :: rest).filter (key · = value) =
      (other :: others).filter (key · = value)) : key thing ≤ key other := by
  have member : other ∈ (thing :: rest).filter (key · = key other) := by
    rw [same]
    simp
  rcases List.mem_cons.mp (List.mem_filter.mp member).1 with rfl | isLater
  · exact le_refl _
  · exact (List.pairwise_cons.mp sorted).1 other isLater

/-- **Things in the order of their keys are told by what there is for each key.** -/
theorem SortedBy.ext {first second : List α} (firstSorted : SortedBy key first)
    (secondSorted : SortedBy key second)
    (same : ∀ value, first.filter (key · = value) = second.filter (key · = value)) :
    first = second := by
  induction first generalizing second with
  | nil =>
    cases second with
    | nil => rfl
    | cons other others =>
      have atHead := same (key other)
      simp at atHead
  | cons thing rest step =>
    cases second with
    | nil =>
      have atHead := same (key thing)
      simp at atHead
    | cons other others =>
      have level : key thing = key other :=
        le_antisymm (firstSorted.head_le same) (secondSorted.head_le fun value => (same value).symm)
      have atHead := same (key thing)
      rw [List.filter_cons_of_pos (by simp), List.filter_cons_of_pos (by simp [level])] at atHead
      obtain ⟨rfl, -⟩ := List.cons.inj atHead
      have tails : rest = others := by
        refine step (List.pairwise_cons.mp firstSorted).2 (List.pairwise_cons.mp secondSorted).2
          fun value => ?_
        have atValue := same value
        rw [List.filter_cons, List.filter_cons] at atValue
        split at atValue
        · exact (List.cons.inj atValue).2
        · exact atValue
      rw [tails]

/-- **What is the same for each key is sorted alike.** -/
theorem mergeSort_eq_of_filter_eq
    (byKey : ∀ first second, le first second = true ↔ key first ≤ key second)
    {first second : List α}
    (same : ∀ value, first.filter (key · = value) = second.filter (key · = value)) :
    first.mergeSort le = second.mergeSort le := by
  refine (sortedBy_mergeSort byKey first).ext (sortedBy_mergeSort byKey second) fun value => ?_
  rw [filter_key_mergeSort byKey, filter_key_mergeSort byKey, same]

end KeySort

end TagAudit
