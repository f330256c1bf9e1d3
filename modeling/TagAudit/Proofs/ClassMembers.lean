/-
**The members of a class.**

A class is written as a list of characters. Read from left to right it is a list of items: a
character, and for every `-` after it that has a character behind it, a new high end.

* `classItems` reads the items; a `-` in first or last position is a member;
* `ClassItem.IsValid`: no range on the way to the last high end runs backwards;
* `readMembers?_eq`: the reader of a glob finds exactly the ranges of the items, and fails exactly
  if an item is not valid;
* `CharRange.takesByte_ascii_iff`: on ASCII the byte set of a range is its set of characters.
-/

import Mathlib.Data.Char
import TagAudit.Pattern.Name

namespace TagAudit

/-! ### Items -/

/-- A character of a class and the high ends written after it, each behind a `-`. The last of them
ends the range. -/
structure ClassItem where
  low : Char
  highs : List Char
deriving Repr, DecidableEq

namespace ClassItem

/-- The high end of the range; without one the item is its character alone. -/
def high (item : ClassItem) : Char := item.highs.getLast?.getD item.low

/-- The item holds the character. -/
def Has (item : ClassItem) (c : Char) : Prop := item.low ≤ c ∧ c ≤ item.high

/-- No range of the item has its low end above its high end. -/
def IsValid (item : ClassItem) : Prop := ∀ high ∈ item.highs, item.low ≤ high

instance (item : ClassItem) (c : Char) : Decidable (item.Has c) :=
  inferInstanceAs (Decidable (_ ∧ _))

-- By the items themselves: characters are finitely many, and they are not to be gone through.
instance (item : ClassItem) : Decidable item.IsValid :=
  List.decidableBAll (item.low ≤ ·) item.highs

/-- The item as a range of a glob. -/
def range (item : ClassItem) : CharRange := ⟨item.low, item.high⟩

/-- Reads on after an item: a `-` with a character behind it gives the item a new high end, a `-`
at the end is a member, and any other character starts an item. -/
def readOn (item : ClassItem) : List Char → List ClassItem
  | [] => [item]
  | ['-'] => [item, ⟨'-', []⟩]
  | '-' :: high :: rest => readOn { item with highs := item.highs ++ [high] } rest
  | c :: rest => item :: readOn ⟨c, []⟩ rest

end ClassItem

/-- The items of a class, read from left to right. -/
def classItems : List Char → List ClassItem
  | [] => []
  | c :: rest => ClassItem.readOn ⟨c, []⟩ rest

/-- No range of the class runs backwards. -/
def ValidMembers (members : List Char) : Prop := ∀ item ∈ classItems members, item.IsValid

instance (members : List Char) : Decidable (ValidMembers members) :=
  inferInstanceAs (Decidable (∀ item ∈ classItems members, _))

namespace ClassItem

variable {item : ClassItem}

/-- A high end that was read stays one of its item. -/
theorem exists_readOn (item : ClassItem) (text : List Char) :
    ∃ made ∈ item.readOn text, made.low = item.low ∧ item.highs ⊆ made.highs := by
  fun_induction readOn item text with
  | case1 item => exact ⟨item, by simp, rfl, List.Subset.refl _⟩
  | case2 item => exact ⟨item, by simp, rfl, List.Subset.refl _⟩
  | case3 item high rest step =>
    obtain ⟨made, isMade, sameLow, inside⟩ := step
    exact ⟨made, isMade, sameLow, fun c isHigh => inside (List.mem_append_left _ isHigh)⟩
  | case4 item c rest _ _ step => exact ⟨item, by simp, rfl, List.Subset.refl _⟩

/-- An item with a range that runs backwards spoils what is read on after it. -/
theorem not_valid_readOn {text : List Char} (backwards : ¬ item.IsValid) :
    ¬ ∀ made ∈ item.readOn text, made.IsValid := by
  intro valid
  obtain ⟨made, isMade, sameLow, inside⟩ := item.exists_readOn text
  refine backwards fun high isHigh => ?_
  rw [← sameLow]
  exact valid made isMade high (inside isHigh)

/-- A new high end keeps an item valid if it is not below the low end. -/
theorem isValid_append (valid : item.IsValid) (high : Char) :
    ({ item with highs := item.highs ++ [high] } : ClassItem).IsValid ↔ item.low ≤ high := by
  constructor
  · intro both
    exact both high (by simp)
  · intro forward other isHigh
    rcases List.mem_append.mp isHigh with old | new
    · exact valid other old
    · rw [List.mem_singleton.mp new]
      exact forward

theorem isValid_single (c : Char) : IsValid ⟨c, []⟩ := by
  intro high isHigh
  cases isHigh

theorem range_low (item : ClassItem) : item.range.low = item.low := rfl

theorem range_single (c : Char) : range ⟨c, []⟩ = ⟨c, c⟩ := rfl

theorem range_append (item : ClassItem) (high : Char) :
    ({ item with highs := item.highs ++ [high] } : ClassItem).range = ⟨item.low, high⟩ := by
  simp [range, ClassItem.high]

end ClassItem

/-! ### The reader of a class finds the items -/

section Reader

variable (ranges : List CharRange) (text after : List Char)

theorem readMembers?_closing (reader : ClassReader) :
    readMembers? reader false (']' :: after) = some (reader.finish, after) :=
  rfl

/-- A character that is neither a bracket nor a `-` is a new range. -/
theorem readMembers?_member {c : Char} (notClosing : c ≠ ']') (notDash : c ≠ '-') :
    readMembers? ⟨ranges, false⟩ false (c :: text) =
      readMembers? ⟨⟨c, c⟩ :: ranges, false⟩ false text := by
  simp [readMembers?, ClassReader.step?, notClosing, notDash]

/-- A `-` with a character behind it ends the last range there, unless that is below its start. -/
theorem readMembers?_dash (last : CharRange) {high : Char} (notClosing : high ≠ ']') :
    readMembers? ⟨last :: ranges, false⟩ false ('-' :: high :: text) =
      if high < last.low then none
      else readMembers? ⟨⟨last.low, high⟩ :: ranges, false⟩ false text := by
  rw [readMembers?]
  simp only [ClassReader.step?, Option.bind_eq_bind]
  by_cases backwards : high < last.low
  · simp [readMembers?, ClassReader.step?, ClassReader.close?, notClosing, backwards]
  · simp [readMembers?, ClassReader.step?, ClassReader.close?, notClosing, backwards]

/-- Reading on after an item, up to the closing bracket. -/
theorem readMembers?_readOn (item : ClassItem) (valid : item.IsValid) (inside : ']' ∉ text) :
    readMembers? ⟨item.range :: ranges, false⟩ false (text ++ ']' :: after) =
      if ∀ made ∈ item.readOn text, made.IsValid then
        some (ranges.reverse ++ (item.readOn text).map ClassItem.range, after)
      else none := by
  fun_induction ClassItem.readOn item text generalizing ranges with
  | case1 item =>
    rw [List.nil_append, readMembers?_closing, if_pos (by simpa using valid)]
    simp [ClassReader.finish]
  | case2 item =>
    rw [if_pos (by simp [valid, ClassItem.isValid_single])]
    simp [readMembers?, ClassReader.step?, ClassReader.finish]
    rfl
  | case3 item high rest step =>
    obtain ⟨-, notClosing, inside⟩ : ']' ≠ '-' ∧ ']' ≠ high ∧ ']' ∉ rest := by simpa using inside
    rw [List.cons_append, List.cons_append, readMembers?_dash _ _ _ (Ne.symm notClosing),
      ClassItem.range_low]
    have extended := ClassItem.isValid_append valid high
    -- A range that runs backwards stays with its item, so the reference finds it as well.
    by_cases backwards : high < item.low
    · rw [if_pos backwards, if_neg]
      exact ClassItem.not_valid_readOn fun both => (extended.mp both).not_gt backwards
    · rw [if_neg backwards, ← step ranges (extended.mpr (not_lt.mp backwards)) inside,
        ClassItem.range_append]
  | case4 item c rest lastDash dash step =>
    obtain ⟨notClosing, inside⟩ : ']' ≠ c ∧ ']' ∉ rest := by simpa using inside
    have notDash : c ≠ '-' := by
      rintro rfl
      cases rest with
      | nil => exact lastDash rfl rfl
      | cons high rest => exact dash high rest rfl rfl
    rw [List.cons_append, readMembers?_member _ _ (Ne.symm notClosing) notDash,
      ← ClassItem.range_single, step _ (ClassItem.isValid_single c) inside]
    simp only [List.forall_mem_cons, valid, true_and, List.map_cons, List.reverse_cons,
      List.append_assoc, List.singleton_append]

end Reader

/-- **The reader of a class finds the ranges of its items, and fails exactly if one of them runs
backwards.** -/
theorem readMembers?_eq (members after : List Char) (nonempty : members ≠ [])
    (inside : ']' ∉ members.tail) :
    readMembers? ⟨[], false⟩ true (members ++ ']' :: after) =
      if ValidMembers members then some ((classItems members).map ClassItem.range, after)
      else none := by
  cases members with
  | nil => exact absurd rfl nonempty
  | cons c rest =>
    have first : readMembers? ⟨[], false⟩ true (c :: (rest ++ ']' :: after)) =
        readMembers? ⟨[ClassItem.range ⟨c, []⟩], false⟩ false (rest ++ ']' :: after) := by
      simp [readMembers?, ClassReader.step?]
      rfl
    rw [List.cons_append, first]
    exact readMembers?_readOn [] rest after ⟨c, []⟩ (ClassItem.isValid_single c) inside

-- A second `-` moves the high end of the range before it; a `-` at the end is a member.
example : classItems ['a', '-', 'e', '-', 'c', '-'] = [⟨'a', ['e', 'c']⟩, ⟨'-', []⟩] := by decide

/-! ### Bytes of ASCII -/

theorem utf8EncodeChar_of_ascii {c : Char} (ascii : c.toNat < 128) :
    String.utf8EncodeChar c = [c.toUInt8] := by
  have small : c.val.toNat ≤ 0x7f := Nat.le_of_lt_succ ascii
  unfold String.utf8EncodeChar
  simp only [if_pos small]
  rfl

/-- Every byte of a character beyond ASCII lies beyond the bytes of ASCII. -/
theorem le_of_mem_utf8EncodeChar {c : Char} (beyond : 128 ≤ c.toNat) {byte : UInt8}
    (isByte : byte ∈ String.utf8EncodeChar c) : 128 ≤ byte.toNat := by
  have large : ¬ c.val.toNat ≤ 0x7f := Nat.not_le_of_lt beyond
  unfold String.utf8EncodeChar at isByte
  simp only [if_neg large] at isByte
  split at isByte
  · simp only [List.mem_cons, List.not_mem_nil, or_false] at isByte
    rcases isByte with rfl | rfl <;> (rw [UInt8.toNat_ofNat']; omega)
  · split at isByte
    · simp only [List.mem_cons, List.not_mem_nil, or_false] at isByte
      rcases isByte with rfl | rfl | rfl <;> (rw [UInt8.toNat_ofNat']; omega)
    · simp only [List.mem_cons, List.not_mem_nil, or_false] at isByte
      rcases isByte with rfl | rfl | rfl | rfl <;> (rw [UInt8.toNat_ofNat']; omega)

section Ascii

variable {c : Char} (ascii : c.toNat < 128) (d : Char)
include ascii

theorem toNat_toUInt8_of_ascii : c.toUInt8.toNat = c.toNat := by
  show c.val.toNat % 256 = c.val.toNat
  exact Nat.mod_eq_of_lt (Nat.lt_trans ascii (by decide))

/-- The byte of an ASCII character is no byte of a character beyond ASCII. -/
theorem toUInt8_notMem_of_beyond {d : Char} (beyond : 128 ≤ d.toNat) :
    c.toUInt8 ∉ String.utf8EncodeChar d := by
  intro isByte
  have large := le_of_mem_utf8EncodeChar beyond isByte
  rw [toNat_toUInt8_of_ascii ascii] at large
  omega

/-- The byte of an ASCII character is a byte of that character alone. -/
theorem toUInt8_mem_iff : c.toUInt8 ∈ String.utf8EncodeChar d ↔ c = d := by
  by_cases other : d.toNat < 128
  · rw [utf8EncodeChar_of_ascii other, List.mem_singleton, ← UInt8.toNat_inj,
      toNat_toUInt8_of_ascii ascii, toNat_toUInt8_of_ascii other, Char.toNat_inj]
  · constructor
    · intro isByte
      exact absurd isByte (toUInt8_notMem_of_beyond ascii (Nat.le_of_not_lt other))
    · rintro rfl
      exact absurd ascii other

theorem toUInt8_notMem_tail : c.toUInt8 ∉ (String.utf8EncodeChar d).tail := by
  by_cases other : d.toNat < 128
  · simp [utf8EncodeChar_of_ascii other]
  · intro isByte
    exact toUInt8_notMem_of_beyond ascii (Nat.le_of_not_lt other) (List.mem_of_mem_tail isByte)

theorem toUInt8_notMem_dropLast : c.toUInt8 ∉ (String.utf8EncodeChar d).dropLast := by
  by_cases other : d.toNat < 128
  · simp [utf8EncodeChar_of_ascii other]
  · intro isByte
    exact toUInt8_notMem_of_beyond ascii (Nat.le_of_not_lt other)
      ((List.dropLast_sublist _).subset isByte)

theorem getLast_le_toUInt8_iff :
    (String.utf8EncodeChar d).getLast?.any (· ≤ c.toUInt8) = true ↔ d ≤ c := by
  by_cases other : d.toNat < 128
  · rw [utf8EncodeChar_of_ascii other]
    simp only [List.getLast?_singleton, Option.any_some, decide_eq_true_eq, UInt8.le_iff_toNat_le,
      toNat_toUInt8_of_ascii ascii, toNat_toUInt8_of_ascii other]
    exact Iff.rfl
  · rw [Option.any_eq_true]
    constructor
    · rintro ⟨last, isLast, below⟩
      have large := le_of_mem_utf8EncodeChar (Nat.le_of_not_lt other) (List.mem_of_getLast? isLast)
      rw [decide_eq_true_eq, UInt8.le_iff_toNat_le, toNat_toUInt8_of_ascii ascii] at below
      omega
    · intro below
      exact absurd (Nat.lt_of_le_of_lt below ascii) other

theorem toUInt8_le_head_iff :
    (String.utf8EncodeChar d).head?.any (c.toUInt8 ≤ ·) = true ↔ c ≤ d := by
  by_cases other : d.toNat < 128
  · rw [utf8EncodeChar_of_ascii other]
    simp only [List.head?_cons, Option.any_some, decide_eq_true_eq, UInt8.le_iff_toNat_le,
      toNat_toUInt8_of_ascii ascii, toNat_toUInt8_of_ascii other]
    exact Iff.rfl
  · have below : c ≤ d := Nat.le_of_lt (Nat.lt_of_lt_of_le ascii (Nat.le_of_not_lt other))
    obtain ⟨first, rest, encoded⟩ := List.exists_cons_of_ne_nil (@String.utf8EncodeChar_ne_nil d)
    have large : 128 ≤ first.toNat :=
      le_of_mem_utf8EncodeChar (Nat.le_of_not_lt other) (by simp [encoded])
    rw [encoded, List.head?_cons, Option.any_some, decide_eq_true_eq, UInt8.le_iff_toNat_le,
      toNat_toUInt8_of_ascii ascii]
    exact iff_of_true (by omega) below

/-- **On ASCII the byte set of a range is the set of its characters.** -/
theorem CharRange.takesByte_ascii_iff (range : CharRange) :
    range.takesByte c.toUInt8 = true ↔ range.low ≤ c ∧ c ≤ range.high := by
  unfold takesByte
  split
  next single =>
    rw [List.contains_iff_mem, toUInt8_mem_iff ascii, ← single]
    exact ⟨fun same => same ▸ ⟨le_refl c, le_refl c⟩, fun both => le_antisymm both.2 both.1⟩
  next =>
    simp only [Bool.or_eq_true, Bool.and_eq_true, List.contains_iff_mem,
      toUInt8_notMem_dropLast ascii, toUInt8_notMem_tail ascii, getLast_le_toUInt8_iff ascii,
      toUInt8_le_head_iff ascii, false_or]

end Ascii

end TagAudit
