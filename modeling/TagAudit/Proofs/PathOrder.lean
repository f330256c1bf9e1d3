/-
**The order of paths.**

Paths are compared component by component: the root before a dot, a dot before two dots, these
before names, and names by their characters. The source files of a run are collected in this order,
and no two of them have the same components.

* `Path.key`: the components of a path as a list of keys, compared like a word in a dictionary;
* `Path.le_iff_key_le`, `Path.same_iff_key_eq`: the comparisons of paths are those of their keys;
* `FileTree.collect_strictly_ordered`: the source files of a run are in strict order.
-/

import Mathlib.Data.List.Lex
import Mathlib.Data.Prod.Lex
import Mathlib.Data.String.Basic
import TagAudit.Files.Walk
import TagAudit.Proofs.Failing
import TagAudit.Proofs.StableSort

namespace TagAudit

namespace Component

/-- The text of a name. -/
def text : Component → String
  | name text => text
  | _ => ""

/-- The kind of a component and its text, the kind deciding first. -/
def key (component : Component) : Nat ×ₗ String := toLex (component.rank, component.text)

theorem lt_iff_key_lt (first second : Component) :
    first.lt second = true ↔ first.key < second.key := by
  cases first <;> cases second <;> simp [lt, key, rank, text, Prod.Lex.toLex_lt_toLex]

theorem key_injective : Function.Injective key := by
  intro first second same
  have pairs : (first.rank, first.text) = (second.rank, second.text) := toLex.injective same
  cases first <;> cases second <;> simp_all [rank, text]

end Component

namespace Path

/-- The keys of the components of a path. -/
def key (path : String) : List (Nat ×ₗ String) := (components path).map Component.key

theorem componentsLe_iff (first second : List Component) :
    componentsLe first second = true ↔ first.map Component.key ≤ second.map Component.key := by
  rw [← not_lt]
  induction first generalizing second with
  | nil => simp [componentsLe]
  | cons component rest step =>
    cases second with
    | nil => simp [componentsLe]
    | cons other others =>
      rw [componentsLe, List.map_cons, List.map_cons, List.cons_lt_cons_iff]
      simp only [Component.lt_iff_key_lt]
      rcases lt_trichotomy component.key other.key with before | level | after
      · simp [before, before.asymm, before.ne']
      · simp [level, step]
      · simp [after, after.asymm]

theorem le_iff_key_le (first second : String) : le first second = true ↔ key first ≤ key second :=
  componentsLe_iff _ _

theorem same_iff_key_eq (first second : String) :
    same first second = true ↔ key first = key second := by
  unfold same key
  rw [beq_iff_eq, (List.map_injective_iff.mpr Component.key_injective).eq_iff]

end Path

namespace FileTree

/-- **Paths in order without the repeated ones are in strict order.** -/
theorem dropRepeated_strictly_ordered {paths : List String}
    (inOrder : paths.Pairwise fun first second => Path.key first ≤ Path.key second) :
    (dropRepeated paths).Pairwise fun first second => Path.key first < Path.key second := by
  induction paths with
  | nil => exact List.Pairwise.nil
  | cons path rest step =>
    obtain ⟨before, restInOrder⟩ := List.pairwise_cons.mp inOrder
    cases rest with
    | nil => exact List.pairwise_singleton _ _
    | cons next rest =>
      -- Whatever is left out further on, the path after this one stays.
      obtain ⟨others, kept⟩ : ∃ others, dropRepeated (next :: rest) = next :: others := ⟨_, rfl⟩
      have onward := step restInOrder
      rw [kept] at onward
      obtain ⟨beforeOthers, othersInOrder⟩ := List.pairwise_cons.mp onward
      by_cases same : Path.same path next = true
      · rw [dropRepeated, if_pos same, kept, List.tail_cons]
        refine List.pairwise_cons.mpr ⟨fun other isOther => ?_, othersInOrder⟩
        rw [(Path.same_iff_key_eq path next).mp same]
        exact beforeOthers other isOther
      · have apart : Path.key path ≠ Path.key next := fun equal =>
          same ((Path.same_iff_key_eq path next).mpr equal)
        have beforeNext : Path.key path < Path.key next :=
          lt_of_le_of_ne (before next (List.mem_cons_self ..)) apart
        rw [dropRepeated, if_neg same, kept]
        refine List.pairwise_cons.mpr ⟨fun other isOther => ?_, onward⟩
        rcases List.mem_cons.mp isOther with rfl | isLater
        · exact beforeNext
        · exact beforeNext.trans (beforeOthers other isLater)

theorem sort_inOrder (paths : List String) :
    (paths.mergeSort Path.le).Pairwise fun first second => Path.key first ≤ Path.key second :=
  sortedBy_mergeSort Path.le_iff_key_le paths

/-- **The source files of a run are in strict order.** -/
theorem collect_strictly_ordered {tree : FileTree} {paths files : List String}
    (collected : tree.collect paths = .ok files) :
    files.Pairwise fun first second => Path.key first < Path.key second := by
  obtain ⟨found, _, made⟩ := bind_eq_ok_iff.mp collected
  obtain rfl := Except.ok.inj made
  exact dropRepeated_strictly_ordered (sort_inOrder _)

end FileTree

end TagAudit
