/-
**Reports.**

The result of a file is its diagnostics and the troubles that kept it from being checked in full.
A report tells the results of a list of files, as text or as JSON.

* `textReport` has one line per trouble and one per diagnostic, file by file;
* `Summary` is what the JSON report tells, and `jsonReport` writes it.
-/

import TagAudit.Check.Diagnostic
import TagAudit.Fault
import TagAudit.Text.Json

namespace TagAudit

/-- What was found in one file. -/
structure FileResult where
  path : String
  diagnostics : List Diagnostic
  faults : List Fault
deriving Repr, DecidableEq

namespace FileResult

/-- Nothing was found. -/
def isClean (result : FileResult) : Bool := result.diagnostics.isEmpty && result.faults.isEmpty

/-- The result with one more trouble. -/
def addFault (result : FileResult) (fault : Fault) : FileResult :=
  { result with faults := result.faults ++ [fault] }

end FileResult

/-- One diagnostic with the file it belongs to, as a report shows it. -/
structure Entry where
  file : String
  line : Nat
  column : Nat
  code : String
  name : String
  tree : String
  missing : String
  message : String
deriving Repr, DecidableEq

namespace Entry

/-- The entry of a diagnostic in a file. -/
def ofDiagnostic (file : String) (diagnostic : Diagnostic) : Entry where
  file := file
  line := diagnostic.location.line
  column := diagnostic.location.column
  code := diagnostic.code
  name := diagnostic.name
  tree := diagnostic.tree
  missing := diagnostic.missing
  message := diagnostic.message

/-- The line of an entry in a text report. -/
def textLine (entry : Entry) : String :=
  entry.file ++ ":" ++ toString entry.line ++ ":" ++ toString entry.column ++ ": " ++
    entry.code ++ " " ++ entry.message

/-- The JSON object of an entry. -/
def toJson (entry : Entry) : Json :=
  .object [("file", .string entry.file), ("line", .number entry.line),
    ("column", .number entry.column), ("code", .string entry.code), ("name", .string entry.name),
    ("tree", .string entry.tree), ("deco", .string entry.missing),
    ("message", .string entry.message)]

end Entry

/-- The lines of one file in a text report: its troubles, then its diagnostics. -/
def fileLines (result : FileResult) : List String :=
  result.faults.map (fun fault => result.path ++ ": error: " ++ fault.message) ++
    result.diagnostics.map fun diagnostic => (Entry.ofDiagnostic result.path diagnostic).textLine

/-- The text report of a list of results. -/
def textReport (results : List FileResult) : String :=
  String.join ((results.flatMap fileLines).map (· ++ "\n"))

/-- What a JSON report tells. -/
structure Summary where
  filesScanned : Nat
  totalDiagnostics : Nat
  entries : List Entry
  errors : List String
deriving Repr, DecidableEq

namespace Summary

/-- The summary of a list of results. -/
def ofResults (results : List FileResult) : Summary :=
  let entries := results.flatMap fun result =>
    result.diagnostics.map (Entry.ofDiagnostic result.path)
  { filesScanned := results.length
    totalDiagnostics := entries.length
    entries := entries
    errors := results.flatMap fun result => result.faults.map Fault.message }

/-- The JSON object of a summary; the errors are left out if there are none. -/
def toJson (summary : Summary) : Json :=
  .object ([("files_scanned", .number summary.filesScanned),
    ("total_diagnostics", .number summary.totalDiagnostics),
    ("diagnostics", .array (summary.entries.map Entry.toJson))] ++
    if summary.errors.isEmpty then [] else [("errors", .array (summary.errors.map .string))])

end Summary

/-- The JSON report of a list of results. -/
def jsonReport (results : List FileResult) : String := (Summary.ofResults results).toJson.pretty

/-- The form of a report. -/
inductive ReportFormat where
  | text
  | json
deriving Repr, DecidableEq

namespace ReportFormat

/-- The word for a format on the command line. -/
def word : ReportFormat → String
  | text => "text"
  | json => "json"

/-- The report of a list of results in a format. -/
def report (format : ReportFormat) (results : List FileResult) : String :=
  match format with
  | text => textReport results
  | json => jsonReport results

end ReportFormat

end TagAudit
