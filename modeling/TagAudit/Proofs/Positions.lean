/-
**Reports in the order of their positions.**

`checkModule` sorts what the checks report. The sort loses nothing, puts the positions in order and
keeps what stands at one position in the order in which it was reported. These three laws fix the
result, so that leaving things out before the sort or after it comes to the same.

* `Location.le_iff_key_le`: positions are ordered by line and then by column;
* `sortByPlace_perm`, `sortByPlace_inOrder`, `filter_place_sortByPlace`: the three laws of the sort,
  for things of any kind that have a position;
* `InOrder.ext`: things in order are told by what stands at each position;
* `filter_sortByPlace`: sorting commutes with leaving things out;
* `checkModule_perm`, `checkModule_sorted`, `checkModule_filter_location`: the three laws for the
  report of a module.
-/

import Mathlib.Data.List.Basic
import Mathlib.Data.Prod.Lex
import TagAudit.Check.Basic
import TagAudit.Proofs.StableSort

namespace TagAudit

namespace Location

/-- The line and the column of a position, the line deciding first. -/
def key (location : Location) : Nat ×ₗ Nat := toLex (location.line, location.column)

/-- The order of positions is the order of their keys. -/
theorem le_iff_key_le (first second : Location) :
    first.le second = true ↔ first.key ≤ second.key := by
  simp [le, key, Prod.Lex.toLex_le_toLex]

/-- A position is known by its key. -/
theorem key_injective : Function.Injective key := by
  rintro ⟨line, column⟩ ⟨otherLine, otherColumn⟩ same
  have pairs : (line, column) = (otherLine, otherColumn) := toLex.injective same
  rw [Prod.mk.injEq] at pairs
  rw [pairs.1, pairs.2]

end Location

/-! ### Sorting by position -/

section Sorting

variable {α β : Type} (place : α → Location)

/-- Things in the order of their positions. -/
def sortByPlace (things : List α) : List α :=
  things.mergeSort fun first second => (place first).le (place second)

/-- No thing stands before the one in front of it. -/
def InOrder (things : List α) : Prop :=
  things.Pairwise fun first second => (place first).key ≤ (place second).key

theorem place_le_iff (first second : α) :
    (place first).le (place second) = true ↔ (place first).key ≤ (place second).key :=
  Location.le_iff_key_le _ _

theorem sortByPlace_perm (things : List α) : (sortByPlace place things).Perm things :=
  List.mergeSort_perm _ _

theorem sortByPlace_inOrder (things : List α) : InOrder place (sortByPlace place things) :=
  sortedBy_mergeSort (place_le_iff place) things

/-- What stands at a position is what has its key. -/
theorem filter_place_eq (things : List α) (spot : Location) :
    things.filter (place · = spot) = things.filter fun thing => (place thing).key = spot.key := by
  simp only [Location.key_injective.eq_iff]

/-- What stands at one position stays in its order. -/
theorem filter_place_sortByPlace (things : List α) (spot : Location) :
    (sortByPlace place things).filter (place · = spot) = things.filter (place · = spot) := by
  rw [filter_place_eq, filter_place_eq]
  exact filter_key_mergeSort (place_le_iff place) things spot.key

variable {place}

/-- **Things in order are told by what stands at each position.** -/
theorem InOrder.ext {first second : List α} (firstInOrder : InOrder place first)
    (secondInOrder : InOrder place second)
    (same : ∀ spot, first.filter (place · = spot) = second.filter (place · = spot)) :
    first = second := by
  refine SortedBy.ext firstInOrder secondInOrder fun value => ?_
  have atSpot := same ⟨(ofLex value).1, (ofLex value).2⟩
  rw [filter_place_eq, filter_place_eq] at atSpot
  exact atSpot

variable (place)

/-- **Sorting commutes with leaving things out.** -/
theorem filter_sortByPlace (keep : α → Bool) (things : List α) :
    (sortByPlace place things).filter keep = sortByPlace place (things.filter keep) := by
  refine InOrder.ext ((sortByPlace_inOrder place things).sublist List.filter_sublist)
    (sortByPlace_inOrder place _) fun spot => ?_
  calc ((sortByPlace place things).filter keep).filter (place · = spot)
      = ((sortByPlace place things).filter (place · = spot)).filter keep :=
        List.filter_comm _ _ _
    _ = (things.filter (place · = spot)).filter keep := by rw [filter_place_sortByPlace]
    _ = (things.filter keep).filter (place · = spot) := List.filter_comm _ _ _
    _ = (sortByPlace place (things.filter keep)).filter (place · = spot) := by
        rw [filter_place_sortByPlace]

/-- Sorting commutes with a change of things that keeps their positions. -/
theorem map_sortByPlace (change : α → β) (otherPlace : β → Location)
    (keeps : ∀ thing, otherPlace (change thing) = place thing) (things : List α) :
    (sortByPlace place things).map change = sortByPlace otherPlace (things.map change) := by
  refine List.map_mergeSort fun first _ second _ => ?_
  rw [keeps, keeps]

end Sorting

/-! ### The report of a module -/

section Laws

variable (settings : Settings) (checks : List Check) (module : Module)

/-- The report of a module is what the checks report, sorted by position. -/
theorem checkModule_eq :
    checkModule settings checks module =
      sortByPlace Diagnostic.location (reports settings checks module.classes) :=
  rfl

/-- **Nothing is lost and nothing is added.** -/
theorem checkModule_perm :
    (checkModule settings checks module).Perm (reports settings checks module.classes) :=
  sortByPlace_perm Diagnostic.location _

/-- **Positions are in order.** -/
theorem checkModule_sorted :
    (checkModule settings checks module).Pairwise fun first second =>
      first.location.key ≤ second.location.key :=
  sortByPlace_inOrder Diagnostic.location _

/-- **What stands at one position stays in the order in which it was reported.** -/
theorem checkModule_filter_location (place : Location) :
    (checkModule settings checks module).filter (·.location = place) =
      (reports settings checks module.classes).filter (·.location = place) :=
  filter_place_sortByPlace Diagnostic.location _ place

end Laws

end TagAudit
