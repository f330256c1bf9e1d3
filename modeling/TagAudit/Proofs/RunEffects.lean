/-
**What a run leaves behind.**

A run whose command line is understood reads the file tree as it was before the run, and the report
is the only thing it gives out: on the output, in the file that the command line names, or to the
special file that it names. A run that fails gives out nothing and changes nothing.

* `runArguments_eq_ok_iff`: a run that does not fail delivers the report of the results that it
  finds in the tree before the run;
* `run_ends`: what a run does to the output, to the tree and to special files;
* `device_keeps_no_report`: a report that is written to the null device is gone.
-/

import TagAudit.CommandLine.Run
import TagAudit.Proofs.ProperTrees

namespace TagAudit

/-- The results of a run on a tree: the paths of its command line are audited under the settings
that the tree and the command line give. -/
def Arguments.Finds (arguments : Arguments) (tree : FileTree) (results : List FileResult) : Prop :=
  ∃ layer, fileLayer tree arguments = .ok layer ∧
    auditPaths (arguments.layer.onTopOf layer).settings tree arguments.paths = .ok results

/-- How a run may end, told by its status, its output, the tree behind it and what a special file
was handed. -/
inductive Arguments.Ends (arguments : Arguments) (tree : FileTree) (outcome : Outcome) : Prop where
  /-- The run fails; it gives out nothing and changes nothing. -/
  | failed (status : outcome.status = 2) (output : outcome.output = "")
      (unchanged : outcome.tree = tree) (keeps : outcome.handed = none)
  /-- The report is on the output, and nothing is changed. -/
  | printed (results : List FileResult) (finds : arguments.Finds tree results)
      (status : outcome.status = 0 ∨ outcome.status = 1) (noFile : arguments.outputFile = none)
      (output : outcome.output = arguments.format.report results)
      (unchanged : outcome.tree = tree) (keeps : outcome.handed = none)
  /-- The report is in the file that the command line names, and nothing else is changed. -/
  | written (results : List FileResult) (finds : arguments.Finds tree results)
      (status : outcome.status = 0 ∨ outcome.status = 1) (path : String)
      (toFile : arguments.outputFile = some path) (output : outcome.output = "")
      (written : tree.Written path (arguments.format.report results).toUTF8 outcome.tree)
      (keeps : outcome.handed = none)
  /-- The command line names a special file, which is handed the report. The report is on the output
  only if that is what the special file stands for; nothing is changed. -/
  | handed (results : List FileResult) (finds : arguments.Finds tree results)
      (status : outcome.status = 0 ∨ outcome.status = 1) (path : String)
      (toFile : arguments.outputFile = some path) (place : Place) (device : Device)
      (leads : tree.LeadsToDevice path place device)
      (takes : device.refusal? (arguments.format.report results).toUTF8 = none)
      (handed : outcome.handed = some (place, arguments.format.report results))
      (output : outcome.output =
        if device = .output then arguments.format.report results else "")
      (unchanged : outcome.tree = tree)

/-- The report goes to the output, or to the file on the command line: that is set, or it is a
special file and is handed the report. -/
def Arguments.Delivers (arguments : Arguments) (tree : FileTree) (report : String)
    (outcome : Outcome) : Prop :=
  match arguments.outputFile with
  | none => outcome.output = report ∧ outcome.tree = tree ∧ outcome.handed = none
  | some path =>
    match tree.write path report.toUTF8 with
    | .ok (.stored after) =>
      outcome.output = "" ∧ outcome.tree = after ∧ outcome.handed = none
    | .ok (.handed place device) =>
      outcome.output = device.shows report ∧ outcome.tree = tree ∧
        outcome.handed = some (place, report)
    | .error _ => False

/-! ### The steps of a run -/

theorem path_auditFile (settings : Settings) (tree : FileTree) (path : String) :
    (auditFile settings tree path).path = path := by
  unfold auditFile
  split <;> rfl

/-- The results of a run are those of the source files that its paths stand for. -/
theorem Arguments.Finds.exists_files {arguments : Arguments} {tree : FileTree}
    {results : List FileResult} (finds : arguments.Finds tree results) :
    ∃ settings files, tree.collect arguments.paths = .ok files ∧
      results = files.map (auditFile settings tree) := by
  obtain ⟨layer, _, audited⟩ := finds
  obtain ⟨files, collected, made⟩ := bind_eq_ok_iff.mp audited
  exact ⟨_, files, collected, (Except.ok.inj made).symm⟩

/-- A run finds the same results each time. -/
theorem Arguments.Finds.unique {arguments : Arguments} {tree : FileTree}
    {results others : List FileResult} (finds : arguments.Finds tree results)
    (otherFinds : arguments.Finds tree others) : results = others := by
  obtain ⟨layer, loaded, audited⟩ := finds
  obtain ⟨other, otherLoaded, otherAudited⟩ := otherFinds
  obtain rfl := Except.ok.inj (loaded.symm.trans otherLoaded)
  exact Except.ok.inj (audited.symm.trans otherAudited)

/-- **A run that does not fail** has a valid command line, finds results in the tree and delivers
their report. -/
theorem runArguments_eq_ok_iff {tree : FileTree} {arguments : Arguments} {outcome : Outcome} :
    runArguments tree arguments = .ok outcome ↔ arguments.validate tree = .ok () ∧
      ∃ results, arguments.Finds tree results ∧
        deliver tree arguments (statusOf results) (arguments.format.report results) =
          .ok outcome := by
  constructor
  · intro done
    obtain ⟨_, valid, done⟩ := bind_eq_ok_iff.mp done
    obtain ⟨layer, loaded, done⟩ := bind_eq_ok_iff.mp done
    obtain ⟨results, audited, delivered⟩ := bind_eq_ok_iff.mp done
    rw [mapError_eq_ok_iff] at valid loaded audited
    exact ⟨valid, results, ⟨layer, loaded, audited⟩, delivered⟩
  · rintro ⟨valid, results, ⟨layer, loaded, audited⟩, delivered⟩
    exact bind_eq_ok_iff.mpr ⟨_, mapError_eq_ok_iff.mpr valid, bind_eq_ok_iff.mpr ⟨layer,
      mapError_eq_ok_iff.mpr loaded, bind_eq_ok_iff.mpr ⟨results, mapError_eq_ok_iff.mpr audited,
        delivered⟩⟩⟩

theorem statusOf_cases (results : List FileResult) :
    statusOf results = 0 ∨ statusOf results = 1 := by
  unfold statusOf
  split
  · exact .inl rfl
  · exact .inr rfl

theorem Device.shows_eq (device : Device) (report : String) :
    device.shows report = if device = .output then report else "" := by
  cases device with
  | output => rfl
  | null | outside | full | closed => rfl

/-- **What delivering a report does**, if it can be delivered. -/
theorem delivers_of_deliver {tree : FileTree} {arguments : Arguments} {status : Nat}
    {report : String} {outcome : Outcome}
    (delivered : deliver tree arguments status report = .ok outcome) :
    outcome.status = status ∧ outcome.failure = none ∧ arguments.Delivers tree report outcome := by
  unfold Arguments.Delivers
  unfold deliver at delivered
  cases toFile : arguments.outputFile with
  | none =>
    simp only [toFile] at delivered
    cases delivered
    exact ⟨rfl, rfl, rfl, rfl, rfl⟩
  | some path =>
    simp only [toFile] at delivered
    split at delivered
    next after stored =>
      cases delivered
      exact ⟨rfl, rfl, by simp only [stored, and_self]⟩
    next place device handed =>
      cases delivered
      exact ⟨rfl, rfl, by simp only [handed, and_self]⟩
    next => cases delivered

/-- The report of some results goes to the output, or to the file on the command line. -/
theorem ends_of_deliver {tree : FileTree} {arguments : Arguments} {results : List FileResult}
    {outcome : Outcome} (finds : arguments.Finds tree results)
    (delivered : deliver tree arguments (statusOf results) (arguments.format.report results) =
      .ok outcome) : arguments.Ends tree outcome := by
  have status := statusOf_cases results
  unfold deliver at delivered
  split at delivered
  next noFile =>
    obtain rfl := Except.ok.inj delivered
    exact .printed results finds status noFile rfl rfl rfl
  next path toFile =>
    split at delivered
    next after stored =>
      obtain rfl := Except.ok.inj delivered
      exact .written results finds status path toFile rfl (FileTree.written_of_write stored) rfl
    next place device handed =>
      obtain rfl := Except.ok.inj delivered
      obtain ⟨leads, takes⟩ := FileTree.leadsToDevice_of_write handed
      exact .handed results finds status path toFile place device leads takes rfl
        (device.shows_eq _) rfl
    next => cases delivered

/-- **A run gives out its report and nothing else.** The report is that of the results that the run
finds in the tree before it. -/
theorem run_ends (tree : FileTree) (words : List String) (arguments : Arguments)
    (understood : Arguments.parse words = .ok arguments) :
    arguments.Ends tree (run tree words) := by
  cases done : runArguments tree arguments with
  | ok outcome =>
    have isRun : run tree words = outcome := by simp only [run, understood, done]
    obtain ⟨_, results, finds, delivered⟩ := runArguments_eq_ok_iff.mp done
    rw [isRun]
    exact ends_of_deliver finds delivered
  | error fault =>
    have isRun : run tree words = .failed tree fault.message := by
      simp only [run, understood, done]
    rw [isRun]
    exact .failed rfl rfl rfl rfl

/-- A working directory in which the report goes through a link to a name that is still free. -/
def linkTree : FileTree :=
  ⟨[(["work"], .directory), (["work", "tests"], .directory),
    (["work", "latest"], .link "report.txt")], ["work"]⟩

theorem run_ends_through_link :
    Arguments.parse ["-O", "latest", "tests"] =
        .ok { paths := ["tests"], outputFile := some "latest" } ∧
      Arguments.Ends { paths := ["tests"], outputFile := some "latest" } linkTree
        (run linkTree ["-O", "latest", "tests"]) :=
  ⟨rfl, run_ends linkTree ["-O", "latest", "tests"] _ rfl⟩

/-! ### A report that is lost -/

/-- A working directory with nothing in it, and the null device. -/
def deviceTree : FileTree :=
  ⟨[(["work"], .directory), (["dev"], .directory), (["dev", "null"], .sink)], ["work"]⟩

/-- A command line that sends the report to the device. -/
def deviceWords : List String := ["-f", "json", "-O", "/dev/null"]

/-- What that command line asks for. -/
def deviceArguments : Arguments :=
  { paths := ["."], format := .json, outputFile := some "/dev/null" }

/-- What the run does: the device is handed the report. -/
def deviceOutcome : Outcome :=
  ⟨0, "", none, deviceTree, some (["dev", "null"], deviceArguments.format.report [])⟩

theorem land_device : deviceTree.land true "/dev/null" = .ok (.entry ["dev", "null"]) := by
  refine bind_eq_ok_iff.mpr ⟨(), rfl, ?_⟩
  have steps : Path.steps "/dev/null" = ["", "dev", "null"] := by decide
  have start : FileTree.startOf "/dev/null" deviceTree.workingDirectory = [] := by decide
  have short : ∀ name ∈ ["dev", "null"], ¬ FileTree.nameLimit < name.utf8ByteSize := by decide
  rw [steps, start]
  simp [FileTree.follow, FileTree.isDirectoryAt, FileTree.entry?, FileEntry.sink, deviceTree,
    short "dev" (by decide), short "null" (by decide)]

/-- A name that is free in the working directory leads to no file. -/
theorem isFile_of_free {tree : FileTree} {path name : String}
    (isDirectory : tree.isDirectoryAt tree.workingDirectory = true)
    (free : tree.entry? (tree.workingDirectory ++ [name]) = none)
    (accepted : FileTree.accept path = .ok ()) (steps : Path.steps path = [".", name])
    (relative : Path.isAbsolute path = false) (isName : ¬ (name = "" ∨ name = ".") ∧ name ≠ "..")
    (short : ¬ FileTree.nameLimit < name.utf8ByteSize) : tree.isFile path = false := by
  have start : FileTree.startOf path tree.workingDirectory = tree.workingDirectory := by
    rw [FileTree.startOf, relative]
    rfl
  have vacant : tree.land true path = .ok (.vacant (tree.workingDirectory ++ [name])) := by
    refine bind_eq_ok_iff.mpr ⟨(), accepted, ?_⟩
    rw [steps, start]
    simp [FileTree.follow, isDirectory, free, isName, short]
  simp [FileTree.isFile, FileTree.lookup, FileTree.locate, vacant, bind, Except.bind]

/-- Where the standard names are free in the working directory, there is no settings file. -/
theorem findSettings_of_free {tree : FileTree}
    (isDirectory : tree.isDirectoryAt tree.workingDirectory = true)
    (free : ∀ name ∈ standardNames, tree.entry? (tree.workingDirectory ++ [name]) = none) :
    findSettings tree "." = none := by
  refine List.find?_eq_none.mpr fun path member => ?_
  simp only [standardNames, List.map_cons, List.map_nil, List.mem_cons, List.not_mem_nil,
    or_false, forall_eq_or_imp, forall_eq] at member free
  obtain rfl | rfl | rfl := member
  · rw [isFile_of_free isDirectory free.1 rfl (by decide) (by decide) (by decide) (by decide)]
    decide
  · rw [isFile_of_free isDirectory free.2.1 rfl (by decide) (by decide) (by decide) (by decide)]
    decide
  · rw [isFile_of_free isDirectory free.2.2 rfl (by decide) (by decide) (by decide) (by decide)]
    decide

theorem findSettings_device : findSettings deviceTree "." = none :=
  findSettings_of_free rfl fun _ _ => by simp [FileTree.entry?, deviceTree]

/-- The path of the working directory leads there. -/
theorem locate_working : deviceTree.locate "." = .ok ["work"] := FileTree.locate_dot rfl

theorem lookup_working : deviceTree.lookup "." = .ok .directory :=
  bind_eq_ok_iff.mpr ⟨["work"], locate_working, rfl⟩

/-- The run on the device finds no sources. -/
theorem finds_device : deviceArguments.Finds deviceTree [] := by
  refine ⟨Layer.empty, ?_, ?_⟩
  · rw [fileLayer, findSettings_device]
    rfl
  · refine bind_eq_ok_iff.mpr ⟨[], ?_, rfl⟩
    have opens : deviceTree.WalksThrough WalkRule.sources "." := by
      refine FileTree.walksThrough_of_noDirectories locate_working ?_
      rw [FileTree.directoriesBelow, FileTree.visits_eq]
      rfl
    have below : deviceTree.filesBelow WalkRule.sources ["work"] = [] := by
      rw [FileTree.filesBelow, FileTree.visits_eq]
      rfl
    have walked : deviceTree.walk WalkRule.sources "." = .ok [] := by
      rw [FileTree.walk_of_walksThrough locate_working rfl opens, below]
      rfl
    have expanded : deviceTree.expand "." = .ok [] := by
      rw [FileTree.expand, FileTree.isFile, FileTree.isDirectory, lookup_working]
      exact walked
    have listed : deviceArguments.paths.mapM deviceTree.expand = .ok [[]] := by
      show ["."].mapM deviceTree.expand = _
      rw [List.mapM_cons, expanded]
      rfl
    refine bind_eq_ok_iff.mpr ⟨[[]], listed, ?_⟩
    simp [FileTree.dropRepeated, pure, Except.pure]

/-- What is written to the device leaves the tree. -/
theorem write_device (content : ByteArray) :
    deviceTree.write "/dev/null" content = .ok (.handed ["dev", "null"] .null) := by
  refine bind_eq_ok_iff.mpr ⟨(), rfl, ?_⟩
  dsimp only
  rw [if_neg (by decide)]
  exact bind_eq_ok_iff.mpr ⟨.entry ["dev", "null"], land_device, rfl⟩

/-- The device reads as empty. -/
theorem read_device : deviceTree.read "/dev/null" = .ok ByteArray.empty := by
  have located : deviceTree.locate "/dev/null" = .ok ["dev", "null"] := by
    rw [FileTree.locate, land_device]
  have lookedUp : deviceTree.lookup "/dev/null" = .ok (.device .null) :=
    bind_eq_ok_iff.mpr ⟨["dev", "null"], located, rfl⟩
  exact bind_eq_ok_iff.mpr ⟨.device .null, lookedUp, rfl⟩

/-- **The null device keeps no report**: the run ends well, and what the command line names does not
hold the report. -/
theorem device_keeps_no_report :
    Arguments.parse deviceWords = .ok deviceArguments ∧
      deviceArguments.outputFile = some "/dev/null" ∧ deviceArguments.Finds deviceTree [] ∧
      (run deviceTree deviceWords).status = 0 ∧
      (run deviceTree deviceWords).tree.read "/dev/null" ≠
        .ok (deviceArguments.format.report []).toUTF8 := by
  have understood : Arguments.parse deviceWords = .ok deviceArguments := rfl
  have done : runArguments deviceTree deviceArguments = .ok deviceOutcome := by
    have valid : deviceArguments.validate deviceTree = .ok () := by
      have isPath : validatePath deviceTree "." = .ok () := by
        rw [validatePath, lookup_working]
      exact bind_eq_ok_iff.mpr ⟨(), bind_eq_ok_iff.mpr ⟨(), isPath, rfl⟩, rfl⟩
    refine runArguments_eq_ok_iff.mpr ⟨valid, [], finds_device, ?_⟩
    have toFile : deviceArguments.outputFile = some "/dev/null" := rfl
    simp only [deliver, toFile, write_device]
    rfl
  have isRun : run deviceTree deviceWords = deviceOutcome := by
    simp only [run, understood, done]
  refine ⟨understood, rfl, finds_device, by rw [isRun]; rfl, ?_⟩
  rw [isRun, deviceOutcome, read_device]
  intro same
  have notEmpty : (deviceArguments.format.report []).toUTF8.size ≠ 0 := by decide +kernel
  exact notEmpty (by rw [← Except.ok.inj same]; rfl)

end TagAudit
