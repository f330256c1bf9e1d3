/-
**The status and the reports of a run agree.**

The status of a run, its report as text and its report as JSON are made from the same results, each
in its own way. They tell the same story: nothing was found, or something was.

* `FileResult.isClean_iff`, `statusOf_eq_zero_iff`, `statusOf_eq_one_iff`: what the status says;
* `textReport_eq_empty_iff`: a text report is empty if and only if nothing was found;
* `Summary.tellsNothing_iff`: a JSON report counts no diagnostics and has no errors if and only if
  nothing was found;
* `delivers_inFormat`: the same command line with another format ends with the same status;
* `run_reports_agree`: all of this for a run.
-/

import Mathlib.Algebra.GroupWithZero.Nat
import Mathlib.Logic.Basic
import TagAudit.Proofs.ProperTrees
import TagAudit.Proofs.RunEffects

namespace TagAudit

/-- The value of the first field of an object with a key. -/
def Json.field? (key : String) : Json → Option Json
  | .object fields => (fields.find? (·.1 = key)).map (·.2)
  | _ => none

/-! ### What was found -/

theorem FileResult.isClean_iff (result : FileResult) :
    result.isClean = true ↔ result.diagnostics = [] ∧ result.faults = [] := by
  rw [isClean, Bool.and_eq_true, List.isEmpty_iff, List.isEmpty_iff]

section Results

variable (results : List FileResult)

/-- Nothing was found in any file. -/
def AllClean : Prop := ∀ result ∈ results, result.diagnostics = [] ∧ result.faults = []

theorem statusOf_eq_zero_iff : statusOf results = 0 ↔ AllClean results := by
  have clean : results.all (·.isClean) = true ↔ AllClean results := by
    rw [List.all_eq_true]
    exact forall₂_congr fun result _ => result.isClean_iff
  unfold statusOf
  split
  next all => exact iff_of_true rfl (clean.mp all)
  next some => exact iff_of_false (by decide) fun all => some (clean.mpr all)

theorem not_allClean_iff :
    ¬ AllClean results ↔ ∃ result ∈ results, result.diagnostics ≠ [] ∨ result.faults ≠ [] := by
  simp only [AllClean, not_forall, not_and_or, exists_prop]

theorem statusOf_eq_one_iff :
    statusOf results = 1 ↔ ∃ result ∈ results, result.diagnostics ≠ [] ∨ result.faults ≠ [] := by
  rw [← not_allClean_iff, ← statusOf_eq_zero_iff]
  rcases statusOf_cases results with zero | one
  · simp [zero]
  · simp [one]

/-! ### The text report -/

/-- A text of whole lines is empty if and only if there is no line. -/
theorem join_lines_eq_empty_iff (lines : List String) :
    String.join (lines.map (· ++ "\n")) = "" ↔ lines = [] := by
  cases lines with
  | nil => simp
  | cons line rest =>
    refine iff_of_false (fun empty => ?_) (List.cons_ne_nil _ _)
    have characters := congrArg String.toList empty
    simp at characters

theorem fileLines_eq_nil_iff (result : FileResult) :
    fileLines result = [] ↔ result.diagnostics = [] ∧ result.faults = [] := by
  rw [fileLines, List.append_eq_nil_iff, List.map_eq_nil_iff, List.map_eq_nil_iff]
  exact and_comm

/-- **A text report is empty if and only if nothing was found.** -/
theorem textReport_eq_empty_iff : textReport results = "" ↔ AllClean results := by
  rw [textReport, join_lines_eq_empty_iff, List.flatMap_eq_nil_iff]
  exact forall₂_congr fun result _ => fileLines_eq_nil_iff result

/-! ### The JSON report -/

namespace Summary

theorem field?_filesScanned (summary : Summary) :
    summary.toJson.field? "files_scanned" = some (.number summary.filesScanned) :=
  rfl

theorem field?_totalDiagnostics (summary : Summary) :
    summary.toJson.field? "total_diagnostics" = some (.number summary.totalDiagnostics) :=
  rfl

theorem field?_diagnostics (summary : Summary) :
    summary.toJson.field? "diagnostics" = some (.array (summary.entries.map Entry.toJson)) :=
  rfl

/-- The errors are told if there are some. -/
theorem field?_errors (summary : Summary) :
    summary.toJson.field? "errors" =
      if summary.errors.isEmpty then none else some (.array (summary.errors.map .string)) := by
  by_cases noErrors : summary.errors.isEmpty = true
  · simp [toJson, Json.field?, noErrors]
  · simp [toJson, Json.field?, noErrors]

/-- The diagnostics of all files are counted together. -/
theorem totalDiagnostics_ofResults :
    (ofResults results).totalDiagnostics =
      (results.map fun result => result.diagnostics.length).sum := by
  show (results.flatMap _).length = _
  rw [List.length_flatMap]
  simp only [List.length_map]

/-- **A JSON report counts no diagnostics and has no errors if and only if nothing was found.** -/
theorem tellsNothing_iff :
    (ofResults results).toJson.field? "total_diagnostics" = some (.number 0) ∧
        (ofResults results).toJson.field? "errors" = none ↔ AllClean results := by
  have noDiagnostics : (ofResults results).toJson.field? "total_diagnostics" = some (.number 0) ↔
      ∀ result ∈ results, result.diagnostics = [] := by
    rw [field?_totalDiagnostics, totalDiagnostics_ofResults, Option.some.injEq, Json.number.injEq,
      List.sum_eq_zero_iff_forall_eq_nat]
    simp
  have noErrors : (ofResults results).toJson.field? "errors" = none ↔
      ∀ result ∈ results, result.faults = [] := by
    have errors : (ofResults results).errors = [] ↔ ∀ result ∈ results, result.faults = [] := by
      show results.flatMap _ = [] ↔ _
      simp
    rw [field?_errors, ← errors, ← List.isEmpty_iff]
    split <;> simp_all
  rw [noDiagnostics, noErrors]
  exact ⟨fun both result member => ⟨both.1 result member, both.2 result member⟩,
    fun all => ⟨fun result member => (all result member).1,
      fun result member => (all result member).2⟩⟩

end Summary

end Results

/-- **The status and both reports tell the same** of the results for some files. -/
structure ReportsAgree (files : List String) (results : List FileResult) (status : Nat) :
    Prop where
  found : status = 1 ↔ ∃ result ∈ results, result.diagnostics ≠ [] ∨ result.faults ≠ []
  clean : status = 0 ↔ ¬ ∃ result ∈ results, result.diagnostics ≠ [] ∨ result.faults ≠ []
  text : ReportFormat.text.report results = "" ↔ status = 0
  json : ReportFormat.json.report results = (Summary.ofResults results).toJson.pretty
  tellsNothing :
    (Summary.ofResults results).toJson.field? "total_diagnostics" = some (.number 0) ∧
      (Summary.ofResults results).toJson.field? "errors" = none ↔ status = 0
  filesScanned :
    (Summary.ofResults results).toJson.field? "files_scanned" = some (.number files.length)
  total : ∃ items : List Json,
    (Summary.ofResults results).toJson.field? "diagnostics" = some (.array items) ∧
    (Summary.ofResults results).toJson.field? "total_diagnostics" = some (.number items.length) ∧
    items.length = (results.map fun result => result.diagnostics.length).sum

theorem reportsAgree_statusOf {files : List String} {results : List FileResult}
    (isResults : results.map FileResult.path = files) :
    ReportsAgree files results (statusOf results) where
  found := statusOf_eq_one_iff results
  clean := by
    rw [← not_allClean_iff, not_not]
    exact statusOf_eq_zero_iff results
  text := (textReport_eq_empty_iff results).trans (statusOf_eq_zero_iff results).symm
  json := rfl
  tellsNothing := (Summary.tellsNothing_iff results).trans (statusOf_eq_zero_iff results).symm
  filesScanned := by
    rw [Summary.field?_filesScanned, ← isResults, List.length_map]
    rfl
  total := by
    refine ⟨_, Summary.field?_diagnostics _, ?_, ?_⟩
    · rw [Summary.field?_totalDiagnostics, List.length_map]
      rfl
    · rw [List.length_map, ← Summary.totalDiagnostics_ofResults]
      rfl

/-! ### The same run in another format -/

/-- The file on the command line is a special file that is full. -/
def Arguments.NamesFull (arguments : Arguments) (tree : FileTree) : Prop :=
  ∃ path place, arguments.outputFile = some path ∧ tree.LeadsToDevice path place .full

/-- Where one report can be delivered, any other one can, unless there is no room for it. -/
theorem exists_deliver {tree : FileTree} {arguments : Arguments} {status : Nat} {report : String}
    {outcome : Outcome} (delivered : deliver tree arguments status report = .ok outcome)
    (notFull : ¬ arguments.NamesFull tree) (other : String) :
    ∃ instead, deliver tree arguments status other = .ok instead := by
  unfold deliver at delivered ⊢
  cases toFile : arguments.outputFile with
  | none => exact ⟨_, rfl⟩
  | some path =>
    have hasRoom : ∀ place, ¬ tree.LeadsToDevice path place .full := fun place leads =>
      notFull ⟨path, place, toFile, leads⟩
    simp only [toFile] at delivered
    obtain ⟨result, written⟩ : ∃ result, tree.write path report.toUTF8 = .ok result := by
      split at delivered
      next after stored => exact ⟨_, stored⟩
      next place device handed => exact ⟨_, handed⟩
      next => cases delivered
    obtain ⟨instead, rewritten⟩ := FileTree.exists_write written hasRoom other.toUTF8
    simp only [rewritten]
    cases instead with
    | stored after => exact ⟨_, rfl⟩
    | handed place device => exact ⟨_, rfl⟩

theorem runArguments_of_succeeded {tree : FileTree} {words : List String} {arguments : Arguments}
    (understood : Arguments.parse words = .ok arguments)
    (succeeded : (run tree words).failure = none) :
    ∃ outcome, runArguments tree arguments = .ok outcome ∧ run tree words = outcome := by
  cases done : runArguments tree arguments with
  | error fault =>
    simp only [run, understood, done] at succeeded
    cases succeeded
  | ok outcome => exact ⟨outcome, rfl, by simp only [run, understood, done]⟩

section InFormat

variable {tree : FileTree} {arguments : Arguments} {results : List FileResult}
  {format : ReportFormat}

/-- The same command line in another format finds the same results. -/
theorem Arguments.finds_inFormat_iff :
    { arguments with format := format }.Finds tree results ↔ arguments.Finds tree results :=
  Iff.rfl

/-- **The same command line in another format**, if it does not fail, ends with the status of the
same results and delivers the report in that format. -/
theorem delivers_inFormat {outcome : Outcome} (finds : arguments.Finds tree results)
    (done : runArguments tree { arguments with format := format } = .ok outcome) :
    outcome.status = statusOf results ∧ outcome.failure = none ∧
      arguments.Delivers tree (format.report results) outcome := by
  obtain ⟨-, others, otherFinds, delivered⟩ := runArguments_eq_ok_iff.mp done
  obtain rfl := finds.unique (Arguments.finds_inFormat_iff.mp otherFinds)
  exact delivers_of_deliver delivered

/-- It does not fail if the command line does not and there is room for the report. -/
theorem exists_runArguments_inFormat {outcome : Outcome}
    (done : runArguments tree arguments = .ok outcome) (notFull : ¬ arguments.NamesFull tree)
    (format : ReportFormat) :
    ∃ instead, runArguments tree { arguments with format := format } = .ok instead := by
  obtain ⟨valid, results, finds, delivered⟩ := runArguments_eq_ok_iff.mp done
  obtain ⟨instead, redelivered⟩ := exists_deliver delivered notFull (format.report results)
  exact ⟨instead, runArguments_eq_ok_iff.mpr ⟨valid, results, finds, redelivered⟩⟩

end InFormat

/-- **The status and the reports of a run agree.** A run that does not fail has results for the
source files that its paths stand for. Its status and the reports of these results in both formats
tell the same, and the same command line in either format ends with that status and delivers the
report in that format, if it does not fail; and it fails only if it names a special file that is
full. -/
theorem run_reports_agree (tree : FileTree) (words : List String) (arguments : Arguments)
    (understood : Arguments.parse words = .ok arguments)
    (succeeded : (run tree words).failure = none) :
    ∃ files results, tree.collect arguments.paths = .ok files ∧ arguments.Finds tree results ∧
      results.map FileResult.path = files ∧
      ReportsAgree files results (run tree words).status ∧
      ∀ format otherWords,
        Arguments.parse otherWords = .ok { arguments with format := format } →
        (arguments.NamesFull tree ∨ (run tree otherWords).failure = none) ∧
        ((run tree otherWords).failure = none →
          (run tree otherWords).status = (run tree words).status ∧
          arguments.Delivers tree (format.report results) (run tree otherWords)) := by
  obtain ⟨outcome, done, isRun⟩ := runArguments_of_succeeded understood succeeded
  obtain ⟨-, results, finds, delivered⟩ := runArguments_eq_ok_iff.mp done
  obtain ⟨settings, files, collected, made⟩ := finds.exists_files
  have status : outcome.status = statusOf results := (delivers_of_deliver delivered).1
  have isResults : results.map FileResult.path = files := by
    rw [made, List.map_map]
    refine (List.map_congr_left fun path _ => ?_).trans (List.map_id _)
    exact path_auditFile settings tree path
  refine ⟨files, results, collected, finds, isResults, ?_, ?_⟩
  · rw [isRun, status]
    exact reportsAgree_statusOf isResults
  · intro format otherWords otherUnderstood
    constructor
    · by_cases full : arguments.NamesFull tree
      · exact .inl full
      · obtain ⟨instead, otherDone⟩ := exists_runArguments_inFormat done full format
        have isOther : run tree otherWords = instead := by
          simp only [run, otherUnderstood, otherDone]
        rw [isOther]
        exact .inr (delivers_inFormat finds otherDone).2.1
    · intro otherSucceeded
      obtain ⟨instead, otherDone, isOther⟩ :=
        runArguments_of_succeeded otherUnderstood otherSucceeded
      obtain ⟨sameStatus, -, delivers⟩ := delivers_inFormat finds otherDone
      rw [isOther, isRun, status]
      exact ⟨sameStatus, delivers⟩

/-- A working directory with one source in a directory of tests. -/
def cartTree : FileTree :=
  ⟨[(["work"], .directory), (["work", "tests"], .directory),
    (["work", "tests", "test_cart.py"], .file "class TestCart:\n    pass\n".toUTF8)], ["work"]⟩

theorem locate_cart : cartTree.locate "tests" = .ok ["work", "tests"] :=
  FileTree.locate_name (by decide) rfl (by decide) rfl rfl (by simp)

theorem lookup_cart : cartTree.lookup "tests" = .ok .directory :=
  bind_eq_ok_iff.mpr ⟨["work", "tests"], locate_cart, rfl⟩

/-- The tests have one source. -/
theorem collect_cart : cartTree.collect ["tests"] = .ok ["tests/test_cart.py"] := by
  have opens : cartTree.WalksThrough WalkRule.sources "tests" := by
    refine FileTree.walksThrough_of_noDirectories locate_cart ?_
    rw [FileTree.directoriesBelow, FileTree.visits_eq]
    decide +kernel
  have below : cartTree.filesBelow WalkRule.sources ["work", "tests"] = [["test_cart.py"]] := by
    rw [FileTree.filesBelow, FileTree.visits_eq]
    decide +kernel
  have path : FileTree.pathBelow "tests" ["test_cart.py"] = "tests/test_cart.py" := by
    decide +kernel
  have walked : cartTree.walk WalkRule.sources "tests" = .ok ["tests/test_cart.py"] := by
    rw [FileTree.walk_of_walksThrough locate_cart rfl opens, below, List.map_singleton, path]
  have expanded : cartTree.expand "tests" = .ok ["tests/test_cart.py"] := by
    rw [FileTree.expand, FileTree.isFile, FileTree.isDirectory, lookup_cart]
    exact walked
  have listed : ["tests"].mapM cartTree.expand = .ok [["tests/test_cart.py"]] := by
    rw [List.mapM_cons, expanded]
    rfl
  refine bind_eq_ok_iff.mpr ⟨[["tests/test_cart.py"]], listed, ?_⟩
  simp [FileTree.dropRepeated, pure, Except.pure]

/-- The run on the tests does not fail, whatever is found in the source. -/
theorem runArguments_cart :
    ∃ outcome, runArguments cartTree { paths := ["tests"] } = .ok outcome ∧
      outcome.failure = none := by
  have valid : Arguments.validate cartTree { paths := ["tests"] } = .ok () := by
    have isPath : validatePath cartTree "tests" = .ok () := by rw [validatePath, lookup_cart]
    exact bind_eq_ok_iff.mpr ⟨(), bind_eq_ok_iff.mpr ⟨(), isPath, rfl⟩, rfl⟩
  have noSettings : findSettings cartTree "." = none :=
    findSettings_of_free rfl (by decide)
  have loaded : fileLayer cartTree { paths := ["tests"] } = .ok Layer.empty := by
    rw [fileLayer, noSettings]
    rfl
  have finds : Arguments.Finds { paths := ["tests"] } cartTree
      (["tests/test_cart.py"].map (auditFile Layer.empty.settings cartTree)) :=
    ⟨Layer.empty, loaded, bind_eq_ok_iff.mpr ⟨_, collect_cart, rfl⟩⟩
  exact ⟨_, runArguments_eq_ok_iff.mpr ⟨valid, _, finds, rfl⟩, rfl⟩

theorem run_reports_agree_cart :
    Arguments.parse ["tests"] = .ok { paths := ["tests"] } ∧
      (run cartTree ["tests"]).failure = none ∧
      ∃ results : List FileResult, results.map FileResult.path = ["tests/test_cart.py"] ∧
        ReportsAgree ["tests/test_cart.py"] results (run cartTree ["tests"]).status := by
  have understood : Arguments.parse ["tests"] = .ok { paths := ["tests"] } := rfl
  obtain ⟨outcome, done, noFailure⟩ := runArguments_cart
  have succeeded : (run cartTree ["tests"]).failure = none := by
    simp only [run, understood, done]
    exact noFailure
  obtain ⟨files, results, collected, _, isResults, agree, _⟩ :=
    run_reports_agree cartTree ["tests"] _ understood succeeded
  obtain rfl : ["tests/test_cart.py"] = files := Except.ok.inj (collect_cart.symm.trans collected)
  exact ⟨understood, succeeded, results, isResults, agree⟩

end TagAudit
