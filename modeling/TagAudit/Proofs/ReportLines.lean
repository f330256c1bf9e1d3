/-
**The lines of a text report.**

A text report tells its results line by line, a JSON report in two lists. Where nothing that is told
has a line break of its own, the lines of the text are the items of the results, and these are the
entries and the errors of the JSON report.

* `ReportItem` is what one line tells, and `reportItems` are the items of some results;
* `Diagnostic.newline_notMem_message`, `Diagnostic.getLast?_message`: what is in a message, and how
  it ends;
* `ReportItem.newline_notMem_line`: no item has a line break, if nothing in its file has one;
* `textLines_join`: texts without line breaks, each ended by one, are lines;
* `textReport_lines`: the lines of a text report are its items.
-/

import Mathlib.Data.List.Basic
import TagAudit.Proofs.Templates
import TagAudit.Report.Basic

namespace TagAudit

/-! ### Items -/

/-- What one line of a text report tells: a trouble with a file, or a diagnostic as an entry. -/
inductive ReportItem where
  | trouble (path error : String)
  | finding (entry : Entry)
deriving Repr, DecidableEq

namespace ReportItem

/-- The line of an item. -/
def line : ReportItem → String
  | trouble path error => path ++ ": error: " ++ error
  | finding entry =>
    entry.file ++ ":" ++ toString entry.line ++ ":" ++ toString entry.column ++ ": " ++
      entry.code ++ " " ++ entry.message

/-- The error that an item tells. -/
def error? : ReportItem → Option String
  | trouble _ error => some error
  | finding _ => none

/-- The entry that an item tells. -/
def entry? : ReportItem → Option Entry
  | trouble _ _ => none
  | finding entry => some entry

end ReportItem

/-- The items of one file: its troubles, then its diagnostics. -/
def FileResult.items (result : FileResult) : List ReportItem :=
  result.faults.map (fun fault => .trouble result.path fault.message) ++
    result.diagnostics.map fun diagnostic => .finding (Entry.ofDiagnostic result.path diagnostic)

/-- The items of some results, file by file. -/
def reportItems (results : List FileResult) : List ReportItem := results.flatMap FileResult.items

/-- Nothing that is told of the file has a line break. -/
structure FileResult.Unbroken (result : FileResult) : Prop where
  path : '\n' ∉ result.path.toList
  errors : ∀ fault ∈ result.faults, '\n' ∉ fault.message.toList
  names : ∀ diagnostic ∈ result.diagnostics, '\n' ∉ diagnostic.name.toList
  trees : ∀ diagnostic ∈ result.diagnostics, '\n' ∉ diagnostic.tree.toList
  missing : ∀ diagnostic ∈ result.diagnostics, '\n' ∉ diagnostic.missing.toList

instance (result : FileResult) : Decidable result.Unbroken :=
  decidable_of_iff
    ('\n' ∉ result.path.toList ∧ (∀ fault ∈ result.faults, '\n' ∉ fault.message.toList) ∧
      (∀ diagnostic ∈ result.diagnostics, '\n' ∉ diagnostic.name.toList) ∧
      (∀ diagnostic ∈ result.diagnostics, '\n' ∉ diagnostic.tree.toList) ∧
      ∀ diagnostic ∈ result.diagnostics, '\n' ∉ diagnostic.missing.toList)
    ⟨fun ⟨path, errors, names, trees, missing⟩ => ⟨path, errors, names, trees, missing⟩,
      fun ⟨path, errors, names, trees, missing⟩ => ⟨path, errors, names, trees, missing⟩⟩

/-- The lines of a text, each ended by a line feed. What is behind the last line feed is a line only
if there is something. -/
def textLines (text : String) : List String :=
  let lines := text.toList.splitOn '\n'
  (if lines.getLast? = some [] then lines.dropLast else lines).map String.ofList

/-! ### Messages -/

namespace Diagnostic

/-- A message has no line break, if the name, the tree and the missing tags have none. -/
theorem newline_notMem_message {diagnostic : Diagnostic} (noName : '\n' ∉ diagnostic.name.toList)
    (noTree : '\n' ∉ diagnostic.tree.toList) (noMissing : '\n' ∉ diagnostic.missing.toList) :
    '\n' ∉ diagnostic.message.toList := by
  have noWord : '\n' ∉ diagnostic.kind.word.toList := by cases diagnostic.kind <;> decide
  rw [message_eq]
  simp [noWord, noName, noTree, noMissing]

/-- The last word of a message is its own. -/
theorem getLast?_message (diagnostic : Diagnostic) :
    diagnostic.message.toList.getLast? = some 's' := by
  rw [message_eq, String.toList_append, List.getLast?_append_of_ne_nil _ (by decide)]
  decide

end Diagnostic

/-! ### Lines of items -/

theorem newline_notMem_toDigits (number : Nat) : '\n' ∉ Nat.toDigits 10 number := by
  intro inside
  exact absurd (Nat.isDigit_of_mem_toDigits (by decide) (by decide) inside) (by decide)

theorem FileResult.mem_items_iff {result : FileResult} {item : ReportItem} :
    item ∈ result.items ↔
      (∃ fault ∈ result.faults, item = .trouble result.path fault.message) ∨
      ∃ diagnostic ∈ result.diagnostics,
        item = .finding (Entry.ofDiagnostic result.path diagnostic) := by
  simp only [items, List.mem_append, List.mem_map, eq_comm]

namespace ReportItem

/-- **No item has a line break**, if nothing that is told of its file has one. -/
theorem newline_notMem_line {result : FileResult} (unbroken : result.Unbroken) {item : ReportItem}
    (isItem : item ∈ result.items) : '\n' ∉ item.line.toList := by
  obtain ⟨fault, isFault, rfl⟩ | ⟨diagnostic, isDiagnostic, rfl⟩ :=
    FileResult.mem_items_iff.mp isItem
  · have noError := unbroken.errors fault isFault
    simp [line, unbroken.path, noError]
  · have noMessage := Diagnostic.newline_notMem_message (unbroken.names _ isDiagnostic)
      (unbroken.trees _ isDiagnostic) (unbroken.missing _ isDiagnostic)
    have noCode : '\n' ∉ diagnostic.code.toList := by
      unfold Diagnostic.code
      cases diagnostic.kind <;> decide
    simp [line, Entry.ofDiagnostic, unbroken.path, newline_notMem_toDigits, noCode, noMessage]

/-- **No item ends with a carriage return**, if no error does: a line ends with its error or with its
message, and a message ends with a word of its own. -/
theorem getLast?_line_ne {result : FileResult}
    (noReturn : ∀ fault ∈ result.faults, fault.message.toList.getLast? ≠ some '\r')
    {item : ReportItem} (isItem : item ∈ result.items) :
    item.line.toList.getLast? ≠ some '\r' := by
  obtain ⟨fault, isFault, rfl⟩ | ⟨diagnostic, _, rfl⟩ := FileResult.mem_items_iff.mp isItem
  · have noError := noReturn fault isFault
    rw [line, String.toList_append, List.getLast?_append]
    cases ends : fault.message.toList.getLast? with
    | none => simp
    | some last =>
      rw [ends] at noError
      exact noError
  · have ends : (Entry.ofDiagnostic result.path diagnostic).message.toList.getLast? = some 's' :=
      diagnostic.getLast?_message
    rw [line, String.toList_append, List.getLast?_append, ends, Option.some_or]
    decide

end ReportItem

/-! ### Lines of a text -/

theorem splitOn_join {lines : List String} (noBreak : ∀ line ∈ lines, '\n' ∉ line.toList) :
    (String.join (lines.map (· ++ "\n"))).toList.splitOn '\n' = lines.map String.toList ++ [[]] := by
  induction lines with
  | nil => rfl
  | cons line rest step =>
    obtain ⟨first, others⟩ := List.forall_mem_cons.mp noBreak
    have isText : (String.join ((line :: rest).map (· ++ "\n"))).toList =
        line.toList ++ '\n' :: (String.join (rest.map (· ++ "\n"))).toList := by simp
    rw [isText, List.splitOn_append_cons_self_of_not_mem first, step others, List.map_cons,
      List.cons_append]

/-- **Texts without line breaks, each ended by one, are lines.** -/
theorem textLines_join {lines : List String} (noBreak : ∀ line ∈ lines, '\n' ∉ line.toList) :
    textLines (String.join (lines.map (· ++ "\n"))) = lines := by
  simp only [textLines, splitOn_join noBreak, List.getLast?_concat, if_true, List.dropLast_concat,
    List.map_map]
  exact (List.map_congr_left fun line _ => String.ofList_toList).trans (List.map_id _)

/-! ### Items of results -/

/-- Every item tells an entry or an error. -/
theorem length_eq_entries_add_errors (items : List ReportItem) :
    items.length =
      (items.filterMap ReportItem.entry?).length + (items.filterMap ReportItem.error?).length := by
  induction items with
  | nil => rfl
  | cons item rest step =>
    cases item with
    | trouble path error =>
      show rest.length + 1 = (rest.filterMap ReportItem.entry?).length +
        ((rest.filterMap ReportItem.error?).length + 1)
      omega
    | finding entry =>
      show rest.length + 1 = (rest.filterMap ReportItem.entry?).length + 1 +
        (rest.filterMap ReportItem.error?).length
      omega

namespace FileResult

variable (result : FileResult)

theorem map_line_items : result.items.map ReportItem.line = fileLines result := by
  rw [fileLines, items, List.map_append, List.map_map, List.map_map]
  rfl

theorem filterMap_entry?_items :
    result.items.filterMap ReportItem.entry? =
      result.diagnostics.map (Entry.ofDiagnostic result.path) := by
  simp [items, List.filterMap_append, List.filterMap_map, Function.comp_def, ReportItem.entry?]

theorem filterMap_error?_items :
    result.items.filterMap ReportItem.error? = result.faults.map Fault.message := by
  simp [items, List.filterMap_append, List.filterMap_map, Function.comp_def, ReportItem.error?]

end FileResult

section Results

variable {results : List FileResult}

theorem map_line_reportItems :
    (reportItems results).map ReportItem.line = results.flatMap fileLines := by
  rw [reportItems, List.map_flatMap]
  simp only [FileResult.map_line_items]

/-- The entries of the items are those of the JSON report. -/
theorem filterMap_entry?_reportItems :
    (reportItems results).filterMap ReportItem.entry? = (Summary.ofResults results).entries := by
  rw [reportItems, List.filterMap_flatMap]
  simp only [FileResult.filterMap_entry?_items]
  rfl

/-- The errors of the items are those of the JSON report. -/
theorem filterMap_error?_reportItems :
    (reportItems results).filterMap ReportItem.error? = (Summary.ofResults results).errors := by
  rw [reportItems, List.filterMap_flatMap]
  simp only [FileResult.filterMap_error?_items]
  rfl

/-- The lines of a text report are the lines of its items. -/
theorem textLines_textReport (unbroken : ∀ result ∈ results, result.Unbroken) :
    textLines (textReport results) = (reportItems results).map ReportItem.line := by
  rw [textReport, ← map_line_reportItems]
  refine textLines_join (List.forall_mem_map.mpr fun item isItem => ?_)
  obtain ⟨result, member, isItem⟩ := List.mem_flatMap.mp isItem
  exact ReportItem.newline_notMem_line (unbroken result member) isItem

end Results

/-- **The lines of a text report.** Where nothing that is told has a line break, the lines of the
text report are the items of the results, file by file, first the errors and then the diagnostics.
The entries and the errors of the items, each in order, are those of the JSON report, so there are
as many lines as these together. No line ends with a carriage return, unless an error does, so it
does not matter whether a reader takes one for a part of the line end. -/
theorem textReport_lines (results : List FileResult)
    (unbroken : ∀ result ∈ results, result.Unbroken) :
    textLines (textReport results) = (reportItems results).map ReportItem.line ∧
      (reportItems results).filterMap ReportItem.entry? = (Summary.ofResults results).entries ∧
      (reportItems results).filterMap ReportItem.error? = (Summary.ofResults results).errors ∧
      (textLines (textReport results)).length =
        (Summary.ofResults results).totalDiagnostics +
          (Summary.ofResults results).errors.length ∧
      ((∀ result ∈ results, ∀ fault ∈ result.faults,
          fault.message.toList.getLast? ≠ some '\r') →
        ∀ line ∈ textLines (textReport results), line.toList.getLast? ≠ some '\r') := by
  have lines := textLines_textReport unbroken
  refine ⟨lines, filterMap_entry?_reportItems, filterMap_error?_reportItems, ?_, ?_⟩
  · rw [lines, List.length_map, length_eq_entries_add_errors, filterMap_entry?_reportItems,
      filterMap_error?_reportItems]
    rfl
  · intro noReturn line isLine
    rw [lines] at isLine
    obtain ⟨item, isItem, rfl⟩ := List.mem_map.mp isLine
    obtain ⟨result, member, isItem⟩ := List.mem_flatMap.mp isItem
    exact ReportItem.getLast?_line_ne (noReturn result member) isItem

/-- A file with a wrong source and a diagnostic, a file without findings and one that is missing. -/
def shopResults : List FileResult :=
  [⟨"tests/test_cart.py", [⟨.methodTags, ⟨4, 5⟩, "test_1", "title>tag", "tag"⟩],
      [.source (.invalid "tests/test_cart.py" ⟨9, 1⟩)]⟩,
    ⟨"tests/test_shop.py", [], []⟩,
    ⟨"tests/test_gone.py", [], [.file (.notFound "tests/test_gone.py")]⟩]

theorem textReport_lines_shop :
    (∀ result ∈ shopResults, result.Unbroken) ∧
      textLines (textReport shopResults) =
        ["tests/test_cart.py: error: " ++
            "invalid syntax in tests/test_cart.py at 9:1, checked the recovered tree",
          "tests/test_cart.py:4:5: AL002 Method 'test_1' should have tags the right position: " ++
            "title>tag. Required 'tag' decorators",
          "tests/test_gone.py: error: file not found: tests/test_gone.py"] := by
  have unbroken : ∀ result ∈ shopResults, result.Unbroken := by decide +kernel
  obtain ⟨lines, -⟩ := textReport_lines shopResults unbroken
  refine ⟨unbroken, lines.trans ?_⟩
  decide +kernel

end TagAudit
