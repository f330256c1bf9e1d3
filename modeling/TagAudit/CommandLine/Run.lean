/-
**A run.**

A run follows a command line in a file tree: it looks at the arguments, loads the settings, audits
the sources and reports what it found. What it did is an `Outcome`: the status, the text on the
output, what is told about a failure, the file tree behind it, and what a special file was handed.

* `runArguments` is a run whose command line was understood;
* `run` starts from the words of the command line.
-/

import TagAudit.Audit.Basic
import TagAudit.CommandLine.Parse
import TagAudit.CommandLine.Validate
import TagAudit.Settings.Load

namespace TagAudit

/-- Why a run fails. -/
inductive RunFault where
  | arguments (cause : InvalidArgument)
  | settings (cause : SettingsFault)
  | sources (cause : FileFault)
  | report (cause : FileFault)
deriving Repr, DecidableEq

namespace RunFault

/-- The words for trouble with a file, followed by what is behind it once more. -/
def fileWords (fault : FileFault) : String :=
  String.intercalate ": " (fault.message :: fault.causes)

/-- What is told about a failure. -/
def message : RunFault → String
  | arguments cause => "error: Invalid arguments: " ++ cause.message
  | settings cause => "error: Invalid configuration: " ++ cause.message
  | sources cause => "error: Failed to collect source files: " ++ fileWords cause
  | report cause => "error: Failed to write report: " ++ fileWords cause

end RunFault

/-- What a run did. -/
structure Outcome where
  /-- 0 if nothing was found, 1 if something was, 2 if the run failed. -/
  status : Nat
  output : String
  failure : Option String
  tree : FileTree
  /-- The place of the special file to which the report went, and the report. -/
  handed : Option (Place × String)

/-- What a run did that failed: nothing but tell why. -/
def Outcome.failed (tree : FileTree) (message : String) : Outcome :=
  ⟨2, "", some message, tree, none⟩

/-- The first line of what is told about a failure. -/
def Outcome.failureLine (outcome : Outcome) : Option String := outcome.failure.map firstLine

/-- The status of a run that could report. -/
def statusOf (results : List FileResult) : Nat := if results.all (·.isClean) then 0 else 1

/-- The layer of settings in the file on the command line, or else in one with a standard name in
the working directory. -/
def fileLayer (tree : FileTree) (arguments : Arguments) : Except SettingsFault Layer :=
  match arguments.settingsFile.or (findSettings tree ".") with
  | some path => loadSettings tree path
  | none => .ok Layer.empty

/-- What shows on the output of a run if a special file is handed the report. -/
def Device.shows (device : Device) (report : String) : String :=
  match device with
  | .output => report
  | _ => ""

/-- Writes the report to the output, or to the file on the command line. -/
def deliver (tree : FileTree) (arguments : Arguments) (status : Nat) (report : String) :
    Except RunFault Outcome :=
  match arguments.outputFile with
  | none => .ok ⟨status, report, none, tree, none⟩
  | some path =>
    match tree.write path report.toUTF8 with
    | .ok (.stored after) => .ok ⟨status, "", none, after, none⟩
    | .ok (.handed place device) =>
      .ok ⟨status, device.shows report, none, tree, some (place, report)⟩
    | .error cause => .error (.report (.unwritable path cause))

/-- A run whose command line was understood, if it does not fail. The command line decides over the
settings file. -/
def runArguments (tree : FileTree) (arguments : Arguments) : Except RunFault Outcome := do
  (arguments.validate tree).mapError .arguments
  let layer ← (fileLayer tree arguments).mapError .settings
  let settings := (arguments.layer.onTopOf layer).settings
  let results ← (auditPaths settings tree arguments.paths).mapError .sources
  deliver tree arguments (statusOf results) (arguments.format.report results)

/-- A run from the words of its command line. -/
def run (tree : FileTree) (words : List String) : Outcome :=
  match Arguments.parse words with
  | .error .help => ⟨0, helpText, none, tree, none⟩
  | .error .version => ⟨0, versionText ++ "\n", none, tree, none⟩
  | .error fault => .failed tree fault.message
  | .ok arguments =>
    match runArguments tree arguments with
    | .ok outcome => outcome
    | .error fault => .failed tree fault.message

end TagAudit
