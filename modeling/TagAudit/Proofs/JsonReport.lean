/-
**The JSON report loses nothing.**

The pretty form of a value is a text that holds the value, and it holds no other one. So the summary
of a run can be read back from its report, and different summaries have different reports.

* `Json.write_mem_forms`, `Json.pretty_mem_document`: what is written is a form of the value;
* `Summary.ofJson?` reads a summary from a value, and `Summary.ofJson?_toJson` says that it finds
  the summary that was written;
* `jsonReport_holds_summary`: the report of any results.
-/

import TagAudit.Proofs.Agreement
import TagAudit.Proofs.JsonForms

namespace TagAudit

namespace Json

open JsonForm

/-! ### Strings and numbers as they are written -/

theorem hexFour?_hexDigit :
    ∀ value < 0x20, JsonFile.hexFour? '0' '0' (hexDigit (value / 16)) (hexDigit (value % 16)) =
      some value := by
  decide

/-- A character is written in one of its forms. -/
theorem quoteChar_mem_char (c : Char) : quoteChar c ∈ char c := by
  have isCode : ∀ {code : Nat} (escape : Char), c.toNat = code →
      JsonFile.shortEscape? escape = some (Char.ofNat code) → IsChar c ['\\', escape] := by
    rintro _ escape rfl standsFor
    exact .letter (standsFor.trans (congrArg some (Char.ofNat_toNat c)))
  show IsChar c (quoteChar c)
  unfold quoteChar
  split
  next isQuote =>
    subst isQuote
    exact .letter rfl
  next notQuote =>
  split
  next isBackslash =>
    subst isBackslash
    exact .letter rfl
  next notBackslash =>
  split
  next shown => exact .plain ⟨shown, notQuote, notBackslash⟩
  next control =>
  split
  next code => exact isCode 'b' code rfl
  next =>
  split
  next code => exact isCode 't' code rfl
  next =>
  split
  next code => exact isCode 'n' code rfl
  next =>
  split
  next code => exact isCode 'f' code rfl
  next =>
  split
  next code => exact isCode 'r' code rfl
  next => exact .number ⟨_, _, _, _, rfl, hexFour?_hexDigit c.toNat (Nat.lt_of_not_le control)⟩

theorem quote_mem_string (value : String) : quote value.toList ∈ JsonForm.string value := by
  have inside : ∀ chars : List Char, chars.flatMap quoteChar ∈ (chars.map char).prod := by
    intro chars
    induction chars with
    | nil => exact rfl
    | cons c chars step =>
      rw [List.flatMap_cons, List.map_cons, List.prod_cons]
      exact Language.mem_mul.mpr ⟨_, quoteChar_mem_char c, _, step, rfl⟩
  refine Language.mem_mul.mpr ⟨'"' :: value.toList.flatMap quoteChar, ?_, ['"'], rfl, rfl⟩
  exact Language.mem_mul.mpr ⟨['"'], rfl, _, inside value.toList, rfl⟩

/-- The digits of a number other than zero start with another digit. -/
theorem head?_toDigits_ne {value : Nat} (notZero : value ≠ 0) :
    (Nat.toDigits 10 value).head? ≠ some '0' := by
  induction value using Nat.strong_induction_on with
  | _ value step =>
    by_cases small : value < 10
    · have other : ∀ digit < 10, digit ≠ 0 → Nat.digitChar digit ≠ '0' := by decide
      rw [Nat.toDigits_of_lt_base small, List.head?_cons, Ne, Option.some.injEq]
      exact other value small notZero
    · rw [Nat.toDigits_of_base_le (by decide) (Nat.le_of_not_lt small),
        List.head?_append_of_ne_nil _ Nat.toDigits_ne_nil]
      exact step (value / 10) (by omega) (by omega)

theorem toDigits_mem_number (value : Nat) : Nat.toDigits 10 value ∈ JsonForm.number value := by
  refine ⟨Nat.toDigits_ne_nil, ?_, ?_, Nat.ofDigitChars_ten_toDigits⟩
  · exact fun c member => Nat.isDigit_of_mem_toDigits (by decide) (by decide) member
  · intro startsWithZero
    by_cases zero : value = 0
    · rw [zero, Nat.toDigits_zero]
    · exact absurd startsWithZero (head?_toDigits_ne zero)

/-! ### Lists and objects as they are written -/

theorem nil_mem_blanks : [] ∈ blanks := fun _ member => absurd member List.not_mem_nil

theorem newLine_mem_blanks (level : Nat) : newLine level ∈ blanks := by
  intro c member
  rcases List.mem_cons.mp member with rfl | isIndent
  · rfl
  · rw [List.eq_of_mem_replicate isIndent]
    rfl

theorem mem_padded {piece : Language Char} {before text after : List Char}
    (isBefore : before ∈ blanks) (isPiece : text ∈ piece) (isAfter : after ∈ blanks) :
    before ++ text ++ after ∈ padded piece :=
  Language.mem_mul.mpr ⟨_, Language.mem_mul.mpr ⟨_, isBefore, _, isPiece, rfl⟩, _, isAfter, rfl⟩

/-- Blanks around a piece may be left out. -/
theorem mem_padded_of_mem {piece : Language Char} {text : List Char} (isPiece : text ∈ piece) :
    text ∈ padded piece := by
  have padding := mem_padded nil_mem_blanks isPiece nil_mem_blanks
  rwa [List.nil_append, List.append_nil] at padding

/-- What is written behind the first item: blanks, and the other items up to the bracket. -/
theorem exists_more (level : Nat) {closing : Char} {texts : List (List Char)}
    {pieces : List (Language Char)} (areForms : List.Forall₂ (· ∈ ·) texts pieces) :
    ∃ space ∈ blanks, ∃ rest ∈ more closing pieces,
      texts.flatMap (fun item => ',' :: newLine (level + 1) ++ item) ++ newLine level ++ [closing] =
        space ++ rest := by
  induction areForms with
  | nil => exact ⟨newLine level, newLine_mem_blanks level, [closing], rfl, rfl⟩
  | @cons item piece texts pieces isForm _ step =>
    obtain ⟨space, isSpace, rest, isRest, written⟩ := step
    have isItem : newLine (level + 1) ++ item ++ space ∈ padded piece :=
      mem_padded (newLine_mem_blanks _) isForm isSpace
    refine ⟨[], nil_mem_blanks,
      [','] ++ (newLine (level + 1) ++ item ++ space) ++ rest, ?_, ?_⟩
    · exact Language.mem_mul.mpr
        ⟨_, Language.mem_mul.mpr ⟨_, rfl, _, isItem, rfl⟩, _, isRest, rfl⟩
    · rw [List.flatMap_cons, List.append_assoc, List.append_assoc, ← List.append_assoc _ _ [closing],
        written]
      simp

/-- Items in brackets are a form of them if each item is one. -/
theorem bracketed_mem_inBrackets {opening closing : Char} {level : Nat} {texts : List (List Char)}
    {pieces : List (Language Char)} (areForms : List.Forall₂ (· ∈ ·) texts pieces) :
    bracketed opening closing level texts ∈ inBrackets opening closing pieces := by
  cases areForms with
  | nil =>
    exact Language.mem_mul.mpr
      ⟨_, Language.mem_mul.mpr ⟨[opening], rfl, [], nil_mem_blanks, rfl⟩, [closing], rfl, rfl⟩
  | @cons item piece texts pieces isForm others =>
    obtain ⟨space, isSpace, rest, isRest, written⟩ := exists_more level others
    have isItem : newLine (level + 1) ++ item ++ space ∈ padded piece :=
      mem_padded (newLine_mem_blanks _) isForm isSpace
    have split : bracketed opening closing level (item :: texts) =
        [opening] ++ (newLine (level + 1) ++ item ++ space) ++ rest := by
      rw [bracketed, List.append_assoc, List.append_assoc, ← List.append_assoc _ _ [closing], written]
      simp
    rw [split]
    exact Language.mem_mul.mpr ⟨_, Language.mem_mul.mpr ⟨_, rfl, _, isItem, rfl⟩, _, isRest, rfl⟩

theorem writeItems_eq_map (level : Nat) (items : List Json) :
    writeItems level items = items.map (write level) := by
  induction items with
  | nil => rfl
  | cons item rest step => rw [writeItems, step, List.map_cons]

/-- A field as it is written. -/
def writeField (level : Nat) (field : String × Json) : List Char :=
  quote field.1.toList ++ ':' :: ' ' :: write level field.2

theorem writeFields_eq_map (level : Nat) (fields : List (String × Json)) :
    writeFields level fields = fields.map (writeField level) := by
  induction fields with
  | nil => rfl
  | cons field rest step =>
    obtain ⟨key, value⟩ := field
    rw [writeFields, step, List.map_cons]
    rfl

/-- A field is written as its key, a colon and a form of its value. -/
theorem writeField_mem_field {level : Nat} {field : String × Json} {form : Language Char}
    (isForm : write level field.2 ∈ form) :
    writeField level field ∈ JsonForm.field field.1 form := by
  have isBlank : [' '] ∈ blanks := List.forall_mem_singleton.mpr rfl
  have isColon : [':', ' '] ∈ padded {[':']} :=
    mem_padded nil_mem_blanks (Set.mem_singleton [':']) isBlank
  have isKey : quote field.1.toList ++ [':', ' '] ∈ JsonForm.string field.1 * padded {[':']} :=
    Language.mem_mul.mpr ⟨_, quote_mem_string field.1, _, isColon, rfl⟩
  refine Language.mem_mul.mpr ⟨_, isKey, _, isForm, ?_⟩
  simp [writeField]

/-- **What is written is a form of the value.** -/
theorem write_mem_forms (level : Nat) (value : Json) : write level value ∈ value.forms := by
  induction value using inductOn generalizing level with
  | null => exact rfl
  | bool value => cases value <;> exact rfl
  | number value => exact toDigits_mem_number value
  | string value => exact quote_mem_string value
  | array items areForms =>
    show bracketed '[' ']' level (writeItems (level + 1) items) ∈ _
    rw [forms, writeItems_eq_map, itemForms_eq_map]
    refine bracketed_mem_inBrackets ?_
    rw [List.forall₂_map_left_iff, List.forall₂_map_right_iff, List.forall₂_same]
    exact fun item member => areForms item member (level + 1)
  | object fields areForms =>
    show bracketed '\x7b' '\x7d' level (writeFields (level + 1) fields) ∈ _
    rw [forms, writeFields_eq_map, fieldForms_eq_map]
    refine bracketed_mem_inBrackets ?_
    rw [List.forall₂_map_left_iff, List.forall₂_map_right_iff, List.forall₂_same]
    exact fun field member => writeField_mem_field (areForms field member (level + 1))

/-- **The pretty form of a value is a text that holds it.** -/
theorem pretty_mem_document (value : Json) : value.pretty.toList ∈ value.document := by
  rw [pretty, String.toList_ofList]
  exact mem_padded_of_mem (write_mem_forms 0 value)

end Json

/-! ### The summary read back -/

/-- The text of a string. -/
def Json.text? : Json → Option String
  | .string value => some value
  | _ => none

theorem Json.text?_string (value : String) : (Json.string value).text? = some value := rfl

/-- Reads an entry: its eight fields, in order. -/
def Entry.ofJson? : Json → Option Entry
  | .object [("file", .string file), ("line", .number line), ("column", .number column),
      ("code", .string code), ("name", .string name), ("tree", .string tree),
      ("deco", .string missing), ("message", .string message)] =>
    some ⟨file, line, column, code, name, tree, missing, message⟩
  | _ => none

theorem Entry.ofJson?_toJson (entry : Entry) : Entry.ofJson? entry.toJson = some entry := rfl

namespace Summary

/-- Reads a summary: the two numbers, the entries and, if they are there, the errors. -/
def ofJson? : Json → Option Summary
  | .object [("files_scanned", .number files), ("total_diagnostics", .number total),
      ("diagnostics", .array items)] => do
    return ⟨files, total, ← items.mapM Entry.ofJson?, []⟩
  | .object [("files_scanned", .number files), ("total_diagnostics", .number total),
      ("diagnostics", .array items), ("errors", .array errors)] => do
    return ⟨files, total, ← items.mapM Entry.ofJson?, ← errors.mapM Json.text?⟩
  | _ => none

/-- What is read back item by item is read back as a list. -/
theorem mapM_map_eq_some {α β : Type} {write : α → β} {read : β → Option α}
    (readsBack : ∀ item, read (write item) = some item) (items : List α) :
    (items.map write).mapM read = some items := by
  induction items with
  | nil => rfl
  | cons item rest step =>
    rw [List.map_cons, List.mapM_cons, readsBack, step]
    rfl

/-- **The summary that was written is read.** -/
theorem ofJson?_toJson (summary : Summary) : ofJson? summary.toJson = some summary := by
  obtain ⟨files, total, entries, errors⟩ := summary
  have readEntries : (entries.map Entry.toJson).mapM Entry.ofJson? = some entries :=
    mapM_map_eq_some Entry.ofJson?_toJson entries
  have readErrors : (errors.map Json.string).mapM Json.text? = some errors :=
    mapM_map_eq_some Json.text?_string errors
  cases errors with
  | nil =>
    show ((entries.map Entry.toJson).mapM Entry.ofJson?).bind _ = _
    rw [readEntries]
    rfl
  | cons error errors =>
    show ((entries.map Entry.toJson).mapM Entry.ofJson?).bind (fun entries =>
      (((error :: errors).map Json.string).mapM Json.text?).bind _) = _
    rw [readEntries, readErrors]
    rfl

theorem toJson_injective : Function.Injective toJson := by
  intro first second same
  have read := ofJson?_toJson first
  rw [same, ofJson?_toJson second] at read
  exact (Option.some.inj read).symm

end Summary

/-- **The JSON report loses nothing.** The report of any results is a text that holds exactly one
value. The summary of the results is read from that value, which has no errors in it if and only if
there are none. So results have the same report if and only if they have the same summary. -/
theorem jsonReport_holds_summary (results : List FileResult) :
    (∃ value : Json,
      (∀ other : Json, (ReportFormat.json.report results).toList ∈ other.document ↔
        other = value) ∧
      Summary.ofJson? value = some (Summary.ofResults results) ∧
      (value.field? "errors" = none ↔ (Summary.ofResults results).errors = [])) ∧
    ∀ others : List FileResult,
      ReportFormat.json.report others = ReportFormat.json.report results ↔
        Summary.ofResults others = Summary.ofResults results := by
  have holds : ∀ results : List FileResult,
      (ReportFormat.json.report results).toList ∈ (Summary.ofResults results).toJson.document :=
    fun results => Json.pretty_mem_document _
  refine ⟨⟨_, fun other => ⟨fun otherHolds => Json.document_unique otherHolds (holds results), ?_⟩,
    Summary.ofJson?_toJson _, ?_⟩, fun others => ⟨fun same => ?_, fun same => ?_⟩⟩
  · rintro rfl
    exact holds results
  · rw [Summary.field?_errors, ← List.isEmpty_iff]
    split <;> simp_all
  · have otherHolds := holds others
    rw [same] at otherHolds
    exact Summary.toJson_injective (Json.document_unique otherHolds (holds results))
  · show (Summary.ofResults others).toJson.pretty = (Summary.ofResults results).toJson.pretty
    rw [same]

end TagAudit
