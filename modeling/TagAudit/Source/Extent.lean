/-
**Extents of text.**

An extent measures a piece of source: its bytes, the line ends in it and the bytes behind the last
line end. A position in a source is the extent of what stands before it.

* `Extent.add` measures two pieces in a row, `Extent.sub` what is left behind a first piece.
-/

namespace TagAudit.Source

/-- The measure of a piece of source. -/
structure Extent where
  bytes : Nat
  rows : Nat
  columns : Nat
deriving DecidableEq, Inhabited, Repr

namespace Extent

/-- The measure of nothing. -/
def zero : Extent := ⟨0, 0, 0⟩

/-- The measure of one piece followed by another. -/
def add (first second : Extent) : Extent :=
  ⟨first.bytes + second.bytes, first.rows + second.rows,
    if second.rows = 0 then first.columns + second.columns else second.columns⟩

/-- The measure of what stands between a position and a later one. -/
def sub (later earlier : Extent) : Extent :=
  ⟨later.bytes - earlier.bytes, later.rows - earlier.rows,
    if earlier.rows < later.rows then later.columns else later.columns - earlier.columns⟩

/-- The rest behind a first piece makes up the whole together with it. -/
theorem add_sub (first second : Extent) : (first.add second).sub first = second := by
  obtain ⟨firstBytes, firstRows, firstColumns⟩ := first
  obtain ⟨secondBytes, secondRows, secondColumns⟩ := second
  simp only [add, sub, Extent.mk.injEq]
  refine ⟨by omega, by omega, ?_⟩
  split <;> split <;> omega

end Extent

end TagAudit.Source
