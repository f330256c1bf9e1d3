/-
**Patterns with question marks.**

A pattern of question marks and characters that stand for themselves is a mask: a name fits it if it
is as long and has the same characters wherever the mask has no question mark. But names are matched
byte by byte, and a question mark takes one byte, not one character.

* `Fits` is a text that fits a mask;
* `mem_wildcardBytes_iff_fits`: the bytes that the pattern takes are those that fit its bytes;
* `textBytes_fits_iff`: with ASCII under the question marks the bytes fit if and only if the
  characters do;
* `Fits.iff_asciiUnder`: of the names that fit as characters, only those with ASCII under the
  question marks also fit as bytes;
* `NamePattern.selects_iff_fits`: which names a pattern with question marks selects.
-/

import TagAudit.Proofs.CharacterBytes
import TagAudit.Proofs.Wildcards

namespace TagAudit

/-! ### Masks -/

/-- The text is as long as the mask and agrees with it at every place where the mask is not blank. -/
def Fits {α : Type} (blank : α) (mask text : List α) : Prop :=
  List.Forall₂ (fun asked given => asked = blank ∨ asked = given) mask text

section Masks

variable {α : Type} {blank : α} {mask text : List α}

theorem fits_nil : Fits blank [] text ↔ text = [] := List.forall₂_nil_left_iff

theorem fits_blank :
    Fits blank (blank :: mask) text ↔ ∃ one rest, text = one :: rest ∧ Fits blank mask rest := by
  rw [Fits, List.forall₂_cons_left_iff]
  constructor
  · rintro ⟨one, rest, -, fits, rfl⟩
    exact ⟨one, rest, rfl, fits⟩
  · rintro ⟨one, rest, rfl, fits⟩
    exact ⟨one, rest, .inl rfl, fits, rfl⟩

theorem fits_literal {one : α} (notBlank : one ≠ blank) :
    Fits blank (one :: mask) text ↔ ∃ rest, text = one :: rest ∧ Fits blank mask rest := by
  rw [Fits, List.forall₂_cons_left_iff]
  constructor
  · rintro ⟨_, rest, isBlank | rfl, fits, rfl⟩
    · exact absurd isBlank notBlank
    · exact ⟨rest, rfl, fits⟩
  · rintro ⟨rest, rfl, fits⟩
    exact ⟨one, rest, .inr rfl, fits, rfl⟩

/-- A part of the mask without blanks stands in the text as it is. -/
theorem fits_append {front : List α} (noBlank : blank ∉ front) :
    Fits blank (front ++ mask) text ↔ ∃ rest, text = front ++ rest ∧ Fits blank mask rest := by
  induction front generalizing text with
  | nil => simp
  | cons one front step =>
    have notBlank := Ne.symm (List.ne_of_not_mem_cons noBlank)
    rw [List.cons_append, fits_literal notBlank]
    simp only [step (List.not_mem_of_not_mem_cons noBlank)]
    constructor
    · rintro ⟨_, rfl, rest, rfl, fits⟩
      exact ⟨rest, rfl, fits⟩
    · rintro ⟨rest, rfl, fits⟩
      exact ⟨front ++ rest, rfl, rest, rfl, fits⟩

end Masks

/-! ### Bytes under question marks -/

/-- The byte of a question mark. -/
def questionByte : UInt8 := '?'.toUInt8

theorem textBytes_question (rest : List Char) :
    textBytes ('?' :: rest) = questionByte :: textBytes rest :=
  textBytes_cons '?' rest

/-- No other character has the byte of a question mark. -/
theorem questionByte_notMem {c : Char} (notAny : c ≠ '?') :
    questionByte ∉ String.utf8EncodeChar c :=
  fun inside => notAny ((toUInt8_mem_iff (by decide) c).mp inside).symm

/-- **The byte strings that a pattern without stars stands for** are those that fit its bytes. -/
theorem mem_wildcardBytes_iff_fits {pattern : List Char} (noStar : '*' ∉ pattern)
    {bytes : List UInt8} :
    bytes ∈ wildcardBytes pattern ↔ Fits questionByte (textBytes pattern) bytes := by
  induction pattern generalizing bytes with
  | nil => exact mem_wildcardBytes_nil.trans fits_nil.symm
  | cons c rest step =>
    have restNoStar := List.not_mem_of_not_mem_cons noStar
    by_cases isAny : c = '?'
    · subst isAny
      rw [mem_wildcardBytes_any, textBytes_question, fits_blank]
      simp only [step restNoStar]
    · have notStar := Ne.symm (List.ne_of_not_mem_cons noStar)
      rw [mem_wildcardBytes_literal notStar isAny, textBytes_cons,
        fits_append (questionByte_notMem isAny)]
      simp only [step restNoStar]

/-! ### Characters under question marks -/

/-- The characters of the name that stand under the question marks of the pattern are ASCII. -/
def AsciiUnder (pattern name : List Char) : Prop :=
  ∀ place ∈ pattern.zip name, place.1 = '?' → place.2.toNat < 128

section Characters

variable {pattern name : List Char}

/-- **With ASCII under the question marks** a name fits as bytes if and only if it fits as
characters: then every question mark that takes a byte takes a character. -/
theorem textBytes_fits_iff (ascii : AsciiUnder pattern name) :
    Fits questionByte (textBytes pattern) (textBytes name) ↔ Fits '?' pattern name := by
  induction pattern generalizing name with
  | nil => rw [textBytes_nil, fits_nil, fits_nil, textBytes_eq_nil_iff]
  | cons c rest step =>
    by_cases isAny : c = '?'
    · subst isAny
      rw [textBytes_question, fits_blank, fits_blank]
      cases name with
      | nil => simp [textBytes_nil]
      | cons d after =>
        obtain ⟨isAscii, afterAscii⟩ := List.forall_mem_cons.mp ascii
        have fitsAfter := step afterAscii
        rw [textBytes_cons, utf8EncodeChar_of_ascii (isAscii rfl)]
        simp [fitsAfter]
    · rw [textBytes_cons, fits_append (questionByte_notMem isAny), fits_literal isAny]
      constructor
      · rintro ⟨back, same, fits⟩
        obtain ⟨after, rfl, rfl⟩ := exists_cons_of_textBytes same
        exact ⟨after, rfl, (step (List.forall_mem_cons.mp ascii).2).mp fits⟩
      · rintro ⟨after, rfl, fits⟩
        exact ⟨textBytes after, textBytes_cons c after,
          (step (List.forall_mem_cons.mp ascii).2).mpr fits⟩

/-- A name has at least as many bytes as the pattern that it fits. -/
theorem Fits.length_textBytes_le (fits : Fits '?' pattern name) :
    (textBytes pattern).length ≤ (textBytes name).length := by
  induction pattern generalizing name with
  | nil => exact Nat.zero_le _
  | cons c rest step =>
    by_cases isAny : c = '?'
    · subst isAny
      obtain ⟨d, after, rfl, fitsAfter⟩ := fits_blank.mp fits
      have behind := step fitsAfter
      have notEmpty := d.utf8Size_pos
      rw [textBytes_question, textBytes_cons, List.length_cons, List.length_append,
        String.length_utf8EncodeChar]
      omega
    · obtain ⟨after, rfl, fitsAfter⟩ := (fits_literal isAny).mp fits
      rw [textBytes_cons, textBytes_cons, List.length_append, List.length_append]
      exact Nat.add_le_add_left (step fitsAfter) _

/-- A name with no more bytes than the pattern that it fits has ASCII under the question marks: a
longer character there would have to be made up for elsewhere. -/
theorem Fits.asciiUnder (fits : Fits '?' pattern name)
    (short : (textBytes name).length ≤ (textBytes pattern).length) : AsciiUnder pattern name := by
  induction pattern generalizing name with
  | nil => exact fun place inside => absurd inside List.not_mem_nil
  | cons c rest step =>
    by_cases isAny : c = '?'
    · subst isAny
      obtain ⟨d, after, rfl, fitsAfter⟩ := fits_blank.mp fits
      have behind := fitsAfter.length_textBytes_le
      have notEmpty := d.utf8Size_pos
      rw [textBytes_question, textBytes_cons, List.length_cons, List.length_append,
        String.length_utf8EncodeChar] at short
      have oneByte : d.utf8Size = 1 := by omega
      have isAscii : d.toNat < 128 := Nat.lt_succ_of_le (Char.utf8Size_eq_one_iff.mp oneByte)
      exact List.forall_mem_cons.mpr ⟨fun _ => isAscii, step fitsAfter (by omega)⟩
    · obtain ⟨after, rfl, fitsAfter⟩ := (fits_literal isAny).mp fits
      rw [textBytes_cons, textBytes_cons, List.length_append, List.length_append] at short
      exact List.forall_mem_cons.mpr
        ⟨fun isMark => absurd isMark isAny, step fitsAfter (Nat.le_of_add_le_add_left short)⟩

/-- **A name that fits as characters fits as bytes** if and only if it has ASCII under the question
marks. -/
theorem Fits.iff_asciiUnder (fits : Fits '?' pattern name) :
    Fits questionByte (textBytes pattern) (textBytes name) ↔ AsciiUnder pattern name := by
  constructor
  · intro byteFits
    exact fits.asciiUnder byteFits.length_eq.ge
  · intro ascii
    exact (textBytes_fits_iff ascii).mpr fits

end Characters

/-! ### Selecting names -/

namespace NamePattern

/-- A name that does not start with a pattern of question marks is selected if its bytes fit. -/
theorem selects_iff_textBytes_fits {pattern name : String}
    (plain : ∀ c ∈ pattern.toList, c ≠ '*' ∧ c ≠ '[' ∧ c ≠ '/')
    (notStart : ¬ pattern.toList <+: name.toList) :
    (ofText pattern).selects name = true ↔
      '?' ∈ pattern.toList ∧
        Fits questionByte (textBytes pattern.toList) (textBytes name.toList) := by
  have noStar : '*' ∉ pattern.toList := fun inside => (plain _ inside).1 rfl
  have noClass : '[' ∉ pattern.toList := fun inside => (plain _ inside).2.1 rfl
  have noSlash : '/' ∉ pattern.toList := fun inside => (plain _ inside).2.2 rfl
  rw [selects_iff_wildcardBytes noClass noSlash, mem_wildcardBytes_iff_fits noStar,
    or_iff_right notStart, or_iff_right noStar]

/-- **A pattern of question marks and characters that stand for themselves**, on a name that does not
start with it: it selects the name if it has a question mark and the name fits it byte by byte. With
ASCII under the question marks that is to fit it character by character, and no other name that fits
it character by character is selected. -/
theorem selects_iff_fits (pattern name : String)
    (plain : ∀ c ∈ pattern.toList, c ≠ '*' ∧ c ≠ '[' ∧ c ≠ '/')
    (notStart : ¬ pattern.toList <+: name.toList) :
    ((ofText pattern).selects name = true ↔
      '?' ∈ pattern.toList ∧
        Fits questionByte (textBytes pattern.toList) (textBytes name.toList)) ∧
    (AsciiUnder pattern.toList name.toList →
      ((ofText pattern).selects name = true ↔
        '?' ∈ pattern.toList ∧ Fits '?' pattern.toList name.toList)) ∧
    (Fits '?' pattern.toList name.toList →
      ((ofText pattern).selects name = true ↔
        '?' ∈ pattern.toList ∧ AsciiUnder pattern.toList name.toList)) := by
  have selected := selects_iff_textBytes_fits plain notStart
  refine ⟨selected, fun ascii => ?_, fun fits => ?_⟩
  · rw [selected, textBytes_fits_iff ascii]
  · rw [selected, fits.iff_asciiUnder]

/-- A question mark between characters of two bytes. -/
theorem selects_iff_fits_summer :
    (∀ c ∈ "é?é".toList, c ≠ '*' ∧ c ≠ '[' ∧ c ≠ '/') ∧ ¬ "é?é".toList <+: "été".toList ∧
      (ofText "é?é").selects "été" = true := by
  have plain : ∀ c ∈ "é?é".toList, c ≠ '*' ∧ c ≠ '[' ∧ c ≠ '/' := by simp
  have notStart : ¬ "é?é".toList <+: "été".toList := by decide
  have ascii : AsciiUnder "é?é".toList "été".toList := by unfold AsciiUnder; decide
  have fits : Fits '?' "é?é".toList "été".toList :=
    .cons (.inr rfl) (.cons (.inl rfl) (.cons (.inr rfl) .nil))
  obtain ⟨-, onAscii, -⟩ := selects_iff_fits _ _ plain notStart
  exact ⟨plain, notStart, (onAscii ascii).mpr ⟨by decide, fits⟩⟩

/-- **A character of two bytes under a question mark**: the name fits the pattern as characters, and
is not selected. -/
theorem question_mark_misses_accent :
    (∀ c ∈ "caf?".toList, c ≠ '*' ∧ c ≠ '[' ∧ c ≠ '/') ∧ ¬ "caf?".toList <+: "café".toList ∧
      '?' ∈ "caf?".toList ∧ Fits '?' "caf?".toList "café".toList ∧
      (ofText "caf?").selects "café" = false := by
  have plain : ∀ c ∈ "caf?".toList, c ≠ '*' ∧ c ≠ '[' ∧ c ≠ '/' := by simp
  have notStart : ¬ "caf?".toList <+: "café".toList := by decide
  refine ⟨plain, notStart, by decide, ?_, ?_⟩
  · exact .cons (.inr rfl) (.cons (.inr rfl) (.cons (.inr rfl) (.cons (.inl rfl) .nil)))
  · rw [Bool.eq_false_iff, ne_eq, selects_iff_textBytes_fits plain notStart]
    rintro ⟨-, fits⟩
    exact absurd fits.length_eq (by decide)

end NamePattern

end TagAudit
