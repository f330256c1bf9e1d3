/-
**Where characters stand among bytes.**

A text is matched by its bytes. The first byte of a character stands nowhere inside a character, so
the bytes of a text tell where its characters begin.

* `exists_split_of_textBytes`: bytes that are divided in front of the first byte of a character are
  divided between two characters;
* `exists_append_of_textBytes`: a text whose bytes begin with those of another text begins with it;
* `exists_between_of_textBytes`: the bytes of a text stand among those of another one only where the
  text itself does.
-/

import Mathlib.Data.List.Basic
import TagAudit.Proofs.ClassMembers

namespace TagAudit

theorem textBytes_nil : textBytes [] = [] := rfl

theorem textBytes_cons (c : Char) (rest : List Char) :
    textBytes (c :: rest) = String.utf8EncodeChar c ++ textBytes rest :=
  List.flatMap_cons

theorem textBytes_append (front back : List Char) :
    textBytes (front ++ back) = textBytes front ++ textBytes back :=
  List.flatMap_append

theorem textBytes_eq_nil_iff {text : List Char} : textBytes text = [] ↔ text = [] := by
  cases text with
  | nil => exact iff_of_true rfl rfl
  | cons c rest => simp [textBytes_cons]

/-- The bytes start with the first byte of a character, if there are any. -/
def StartsCharacter (bytes : List UInt8) : Prop := ∀ byte ∈ bytes.head?, byte.IsUTF8FirstByte

theorem startsCharacter_utf8EncodeChar (c : Char) (rest : List UInt8) :
    StartsCharacter (String.utf8EncodeChar c ++ rest) := by
  intro byte isFirst
  rw [List.head?_append_of_ne_nil _ String.utf8EncodeChar_ne_nil, List.head?_eq_getElem?,
    Option.mem_def, List.getElem?_eq_some_iff] at isFirst
  obtain ⟨_, rfl⟩ := isFirst
  exact UInt8.isUTF8FirstByte_getElem_utf8EncodeChar.mpr rfl

/-- A character is not divided in front of the first byte of a character. -/
theorem eq_nil_of_divided {c : Char} {front back rest : List UInt8}
    (divided : String.utf8EncodeChar c = front ++ back) (inside : back ≠ [])
    (starts : StartsCharacter (back ++ rest)) : front = [] := by
  obtain ⟨byte, others, rfl⟩ := List.exists_cons_of_ne_nil inside
  have within : front.length < (String.utf8EncodeChar c).length := by simp [divided]
  have isByte : (String.utf8EncodeChar c)[front.length] = byte := by simp [divided]
  have isFirst : (String.utf8EncodeChar c)[front.length].IsUTF8FirstByte := by
    rw [isByte]
    exact starts byte rfl
  exact List.length_eq_zero_iff.mp (UInt8.isUTF8FirstByte_getElem_utf8EncodeChar.mp isFirst)

/-- **Bytes that are divided in front of a character are divided between characters.** -/
theorem exists_split_of_textBytes {name : List Char} {front back : List UInt8}
    (same : textBytes name = front ++ back) (starts : StartsCharacter back) :
    ∃ before after, name = before ++ after ∧ textBytes before = front ∧ textBytes after = back := by
  induction name generalizing front with
  | nil =>
    obtain ⟨rfl, rfl⟩ := List.append_eq_nil_iff.mp same.symm
    exact ⟨[], [], rfl, rfl, rfl⟩
  | cons c rest step =>
    rw [textBytes_cons, List.append_eq_append_iff] at same
    obtain ⟨behind, rfl, restSame⟩ | ⟨inside, divided, rfl⟩ := same
    · obtain ⟨before, after, rfl, isFront, isBack⟩ := step restSame
      exact ⟨c :: before, after, rfl, by rw [textBytes_cons, isFront], isBack⟩
    · -- The bytes are divided in the first character, or right behind it.
      by_cases atEnd : inside = []
      · subst atEnd
        rw [List.append_nil] at divided
        exact ⟨[c], rest, rfl, by rw [textBytes_cons, divided, textBytes_nil, List.append_nil], rfl⟩
      · obtain rfl := eq_nil_of_divided divided atEnd starts
        exact ⟨[], c :: rest, rfl, rfl, by rw [textBytes_cons, divided, List.nil_append]⟩

/-- **A text whose bytes begin with those of another text begins with it.** -/
theorem exists_append_of_textBytes {piece name : List Char} {back : List UInt8}
    (same : textBytes name = textBytes piece ++ back) :
    ∃ after, name = piece ++ after ∧ textBytes after = back := by
  have encoded : piece.utf8Encode ++ back.toByteArray = name.utf8Encode := by
    show (textBytes piece).toByteArray ++ back.toByteArray = (textBytes name).toByteArray
    rw [same, List.toByteArray_append]
  obtain ⟨after, rfl⟩ := List.isPrefix_of_utf8Encode_append_eq_utf8Encode _ encoded
  rw [textBytes_append] at same
  exact ⟨after, rfl, List.append_cancel_left same⟩

theorem exists_cons_of_textBytes {c : Char} {name : List Char} {back : List UInt8}
    (same : textBytes name = String.utf8EncodeChar c ++ back) :
    ∃ after, name = c :: after ∧ textBytes after = back := by
  have ofPiece : textBytes name = textBytes [c] ++ back := by
    rw [same, textBytes_cons, textBytes_nil, List.append_nil]
  exact exists_append_of_textBytes ofPiece

/-- **The bytes of a text stand among those of another one only where the text itself stands.** -/
theorem exists_between_of_textBytes {name piece : List Char} {front back : List UInt8}
    (notEmpty : piece ≠ []) (same : textBytes name = front ++ (textBytes piece ++ back)) :
    ∃ before after, name = before ++ (piece ++ after) ∧ textBytes before = front ∧
      textBytes after = back := by
  have starts : StartsCharacter (textBytes piece ++ back) := by
    obtain ⟨c, rest, rfl⟩ := List.exists_cons_of_ne_nil notEmpty
    rw [textBytes_cons, List.append_assoc]
    exact startsCharacter_utf8EncodeChar c _
  obtain ⟨before, behind, rfl, isFront, isBehind⟩ := exists_split_of_textBytes same starts
  obtain ⟨after, rfl, isBack⟩ := exists_append_of_textBytes isBehind
  exact ⟨before, after, rfl, isFront, isBack⟩

end TagAudit
