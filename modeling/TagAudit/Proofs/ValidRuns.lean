/-
**A run that passes its checks can collect its sources.**

The paths of a command line are classified twice: before the run, when they are checked, and again
when the sources are collected. Both accept the same paths, so collecting fails for no run whose
command line was found valid, as long as walks can open the directories that they come to.

* `validatePath_eq_ok_iff`: a path passes the check if and only if it leads to a file or a directory;
* `Arguments.validate_eq_ok_iff`: what a valid command line is;
* `FileTree.collect_eq_error`: collecting fails at the first path that does not pass the check;
* `runArguments_eq_error_iff`: why a run fails;
* `collecting_follows_validation`: all of this for a command line.
-/

import TagAudit.Proofs.RunEffects
import TagAudit.Proofs.Spellings

namespace TagAudit

/-! ### What passes the checks -/

section Checks

variable {tree : FileTree} {path : String}

/-- The check of a path takes what collecting takes. -/
theorem validatePath_eq_ok_iff : validatePath tree path = .ok () ↔ tree.IsPresent path := by
  unfold validatePath FileTree.IsPresent FileTree.isFile FileTree.isDirectory
  cases tree.lookup path with
  | error cause => simp
  | ok entry => cases entry <;> simp

theorem exists_validatePath_eq_error_iff :
    (∃ cause, validatePath tree path = .error cause) ↔ ¬ tree.IsPresent path := by
  rw [← validatePath_eq_ok_iff]
  cases validatePath tree path <;> simp

/-- **A command line is valid** if its paths lead to files or directories, and the path of its
settings file, if there is one, leads to a file. -/
theorem Arguments.validate_eq_ok_iff {arguments : Arguments} :
    arguments.validate tree = .ok () ↔ (∀ path ∈ arguments.paths, tree.IsPresent path) ∧
      ∀ path, arguments.settingsFile = some path → tree.isFile path = true := by
  have checked : arguments.paths.forM (validatePath tree) = .ok () ↔
      ∀ path ∈ arguments.paths, tree.IsPresent path :=
    forM_eq_ok_iff.trans (forall₂_congr fun _ _ => validatePath_eq_ok_iff)
  refine bind_eq_ok_iff.trans ?_
  rw [← checked]
  cases arguments.settingsFile with
  | none =>
    exact ⟨fun ⟨_, paths, _⟩ => ⟨paths, fun _ given => nomatch given⟩,
      fun ⟨paths, _⟩ => ⟨(), paths, rfl⟩⟩
  | some path =>
    by_cases isFile : tree.isFile path = true
    · exact ⟨fun ⟨_, paths, _⟩ => ⟨paths, fun _ given => Option.some.inj given ▸ isFile⟩,
        fun ⟨paths, _⟩ => ⟨(), paths, if_pos isFile⟩⟩
    · refine iff_of_false (fun ⟨_, _, found⟩ => ?_) fun both => isFile (both.2 path rfl)
      simp [isFile] at found

end Checks

/-! ### Collecting -/

namespace FileTree

variable {tree : FileTree} {paths : List String}

/-- Where walks can open the directories that they come to, what is there can be collected. -/
theorem isCollectable_iff {path : String} (opens : tree.WalksThrough WalkRule.sources path) :
    tree.IsCollectable path ↔ tree.IsPresent path :=
  ⟨IsCollectable.isPresent,
    fun present => present.imp_right fun isDirectory => ⟨isDirectory, opens⟩⟩

variable (opens : ∀ path ∈ paths, tree.WalksThrough WalkRule.sources path)

include opens

theorem exists_collect_iff :
    (∃ files, tree.collect paths = .ok files) ↔ ∀ path ∈ paths, tree.IsPresent path := by
  have present : (∀ path ∈ paths, tree.IsCollectable path) ↔ ∀ path ∈ paths, tree.IsPresent path :=
    forall₂_congr fun path isPath => isCollectable_iff (opens path isPath)
  rw [← present]
  exact ⟨fun ⟨_, collected⟩ => collectable_of_collect collected,
    fun collectable => ⟨_, collect_of_collectable collectable⟩⟩

/-- **Collecting fails at the first path that does not pass the check**, and says that it is not
found. -/
theorem collect_eq_error {path : String} (isPath : path ∈ paths) (missing : ¬ tree.IsPresent path) :
    ∃ before first after, paths = before ++ first :: after ∧
      (∀ earlier ∈ before, tree.IsPresent earlier) ∧ ¬ tree.IsPresent first ∧
      tree.collect paths = .error (.notFound first) := by
  obtain ⟨before, first, after, fault, split, earlier, fails, failed⟩ | collectable :=
    collect_cases tree paths
  · cases fails with
    | missing absent =>
      exact ⟨before, first, after, split,
        fun other isEarlier => (earlier other isEarlier).isPresent, absent, failed⟩
    | stopped fault stops => exact absurd stops (opens first (by simp [split]) fault)
  · exact absurd (collectable path isPath).isPresent missing

end FileTree

/-! ### Why a run fails -/

/-- Why a run on a tree fails: its command line is not valid, its settings cannot be loaded, or its
report cannot be written. -/
inductive Arguments.FailsFor (arguments : Arguments) (tree : FileTree) : RunFault → Prop where
  | arguments (cause : InvalidArgument) (invalid : arguments.validate tree = .error cause) :
      arguments.FailsFor tree (.arguments cause)
  | settings (valid : arguments.validate tree = .ok ()) (cause : SettingsFault)
      (unloaded : fileLayer tree arguments = .error cause) :
      arguments.FailsFor tree (.settings cause)
  | report (valid : arguments.validate tree = .ok ()) (results : List FileResult)
      (finds : arguments.Finds tree results) (path : String)
      (toFile : arguments.outputFile = some path) (cause : OsError)
      (unwritten : tree.write path (arguments.format.report results).toUTF8 = .error cause) :
      arguments.FailsFor tree (.report (.unwritable path cause))

section Runs

variable {tree : FileTree} {arguments : Arguments} {fault : RunFault}

theorem deliver_eq_error_iff {status : Nat} {report : String} :
    deliver tree arguments status report = .error fault ↔
      ∃ path, arguments.outputFile = some path ∧ ∃ cause,
        tree.write path report.toUTF8 = .error cause ∧ fault = .report (.unwritable path cause) := by
  unfold deliver
  cases arguments.outputFile with
  | none => simp
  | some path =>
    simp only [Option.some.injEq, exists_eq_left']
    cases tree.write path report.toUTF8 with
    | ok result => cases result <;> simp
    | error cause =>
      simp only [Except.error.injEq, exists_eq_left']
      exact eq_comm

section Opens

variable (opens : ∀ path ∈ arguments.paths, tree.WalksThrough WalkRule.sources path)

include opens

/-- The sources of a valid command line can be audited. -/
theorem exists_auditPaths (valid : arguments.validate tree = .ok ()) (settings : Settings) :
    ∃ results, auditPaths settings tree arguments.paths = .ok results := by
  obtain ⟨files, collected⟩ :=
    (FileTree.exists_collect_iff opens).mpr (Arguments.validate_eq_ok_iff.mp valid).1
  exact ⟨_, bind_eq_ok_iff.mpr ⟨files, collected, rfl⟩⟩

/-- **Why a run fails**: not because of its sources. -/
theorem runArguments_eq_error_iff :
    runArguments tree arguments = .error fault ↔ arguments.FailsFor tree fault := by
  constructor
  · intro failed
    obtain refused | ⟨_, valid, failed⟩ := bind_eq_error_iff.mp failed
    · obtain ⟨cause, invalid, rfl⟩ := mapError_eq_error_iff.mp refused
      exact .arguments cause invalid
    rw [mapError_eq_ok_iff] at valid
    obtain refused | ⟨layer, loaded, failed⟩ := bind_eq_error_iff.mp failed
    · obtain ⟨cause, unloaded, rfl⟩ := mapError_eq_error_iff.mp refused
      exact .settings valid cause unloaded
    rw [mapError_eq_ok_iff] at loaded
    obtain refused | ⟨results, audited, failed⟩ := bind_eq_error_iff.mp failed
    · obtain ⟨cause, unaudited, -⟩ := mapError_eq_error_iff.mp refused
      obtain ⟨results, audited⟩ :=
        exists_auditPaths opens valid (arguments.layer.onTopOf layer).settings
      rw [audited] at unaudited
      cases unaudited
    rw [mapError_eq_ok_iff] at audited
    obtain ⟨path, toFile, cause, unwritten, rfl⟩ := deliver_eq_error_iff.mp failed
    exact .report valid results ⟨layer, loaded, audited⟩ path toFile cause unwritten
  · intro fails
    refine bind_eq_error_iff.mpr ?_
    cases fails with
    | arguments cause invalid => exact .inl (mapError_eq_error_iff.mpr ⟨cause, invalid, rfl⟩)
    | settings valid cause unloaded =>
      refine .inr ⟨(), mapError_eq_ok_iff.mpr valid, bind_eq_error_iff.mpr (.inl ?_)⟩
      exact mapError_eq_error_iff.mpr ⟨cause, unloaded, rfl⟩
    | report valid results finds path toFile cause unwritten =>
      obtain ⟨layer, loaded, audited⟩ := finds
      refine .inr ⟨(), mapError_eq_ok_iff.mpr valid, bind_eq_error_iff.mpr (.inr ?_)⟩
      refine ⟨layer, mapError_eq_ok_iff.mpr loaded, bind_eq_error_iff.mpr (.inr ?_)⟩
      refine ⟨results, mapError_eq_ok_iff.mpr audited, deliver_eq_error_iff.mpr ?_⟩
      exact ⟨path, toFile, cause, unwritten, rfl⟩

end Opens

/-- A run with status 2 failed. -/
theorem exists_fault_of_status {words : List String}
    (understood : Arguments.parse words = .ok arguments) (fatal : (run tree words).status = 2) :
    ∃ fault, runArguments tree arguments = .error fault ∧
      (run tree words).failure = some fault.message := by
  cases done : runArguments tree arguments with
  | error fault => exact ⟨fault, rfl, by simp only [run, understood, done, Outcome.failed]⟩
  | ok outcome =>
    have isRun : run tree words = outcome := by simp only [run, understood, done]
    obtain ⟨-, results, -, delivered⟩ := runArguments_eq_ok_iff.mp done
    rw [isRun, (delivers_of_deliver delivered).1] at fatal
    rcases statusOf_cases results with zero | one <;> omega

end Runs

/-- **Collecting follows validation**, where walks can open the directories that they come to. The
sources of a valid command line can be collected; a run that fails does so because its command line
is not valid, its settings cannot be loaded or its report cannot be written. Where a path does not
pass the check, collecting fails at the first one that does not. -/
theorem collecting_follows_validation (tree : FileTree) (arguments : Arguments)
    (opens : ∀ path ∈ arguments.paths, tree.WalksThrough WalkRule.sources path) :
    (arguments.validate tree = .ok () → ∃ files, tree.collect arguments.paths = .ok files) ∧
    (∀ words, Arguments.parse words = .ok arguments → (run tree words).status = 2 →
      ∃ fault, arguments.FailsFor tree fault ∧ (run tree words).failure = some fault.message) ∧
    ∀ path ∈ arguments.paths, (∃ cause, validatePath tree path = .error cause) →
      ∃ before first after, arguments.paths = before ++ first :: after ∧
        (∀ earlier ∈ before, validatePath tree earlier = .ok ()) ∧
        (∃ cause, validatePath tree first = .error cause) ∧
        tree.collect arguments.paths = .error (.notFound first) := by
  refine ⟨fun valid => ?_, fun words understood fatal => ?_, fun path isPath rejected => ?_⟩
  · exact (FileTree.exists_collect_iff opens).mpr (Arguments.validate_eq_ok_iff.mp valid).1
  · obtain ⟨fault, failed, told⟩ := exists_fault_of_status understood fatal
    exact ⟨fault, (runArguments_eq_error_iff opens).mp failed, told⟩
  · have missing := exists_validatePath_eq_error_iff.mp rejected
    simp only [validatePath_eq_ok_iff, exists_validatePath_eq_error_iff]
    exact FileTree.collect_eq_error opens isPath missing

/-- A working directory with a link to a hidden directory, a directory to be left out, links that
lead nowhere and a device. -/
def tangledTree : FileTree :=
  ⟨[(["work"], .directory), (["work", "suite"], .link ".tests"), (["work", ".tests"], .directory),
    (["work", ".tests", "lost.py"], .link "nowhere.py"), (["work", "venv"], .directory),
    (["work", "gone.py"], .link "nowhere.py"), (["work", "null"], .sink)], ["work"]⟩

theorem locate_suite : tangledTree.locate "suite" = .ok ["work", ".tests"] :=
  FileTree.locate_link (by decide) rfl (by decide) rfl (by decide) (by decide) rfl rfl (by simp)

theorem isPresent_suite : tangledTree.IsPresent "suite" :=
  .inr (FileTree.isDirectory_of_locate locate_suite rfl)

theorem locate_venv : tangledTree.locate "venv" = .ok ["work", "venv"] :=
  FileTree.locate_name (by decide) rfl (by decide) rfl rfl (by simp)

theorem isPresent_venv : tangledTree.IsPresent "venv" :=
  .inr (FileTree.isDirectory_of_locate locate_venv rfl)

theorem lookup_gone : tangledTree.lookup "gone.py" = .error .noSuchFile :=
  bind_eq_error_iff.mpr (.inl
    (FileTree.locate_link_vacant (by decide) rfl (by decide) rfl (by decide) (by decide) rfl rfl))

/-- A link that leads nowhere is missing. -/
theorem validatePath_gone : validatePath tangledTree "gone.py" = .error (.missing "gone.py") := by
  rw [validatePath, lookup_gone]

/-- No walk comes to a directory: there is none below the two directories, and nothing is below the
link and the device. -/
theorem walksThrough_tangled : ∀ path ∈ ["suite", "venv", "gone.py", "null"],
    tangledTree.WalksThrough WalkRule.sources path := by
  simp only [List.forall_mem_cons]
  refine ⟨?_, ?_, ?_, ?_, List.forall_mem_nil _⟩
  · refine FileTree.walksThrough_of_noDirectories locate_suite ?_
    rw [FileTree.directoriesBelow, FileTree.visits_eq]
    decide +kernel
  · refine FileTree.walksThrough_of_noDirectories locate_venv ?_
    rw [FileTree.directoriesBelow, FileTree.visits_eq]
    decide +kernel
  · intro fault stops
    have leads := (FileTree.isDirectory_iff _ _).mp stops.isDirectory
    rw [lookup_gone] at leads
    cases leads
  · intro fault stops
    have leads := (FileTree.isDirectory_iff _ _).mp stops.isDirectory
    have isDevice : tangledTree.lookup "null" = .ok (.device .null) :=
      FileTree.lookup_name (by decide) rfl (by decide) rfl rfl (by simp)
    rw [isDevice] at leads
    cases leads

/-- The directories can be collected, whatever is in them; a link that leads nowhere fails the run
already when it is checked. -/
theorem collecting_follows_validation_tangled :
    (∀ path ∈ ["suite", "venv", "gone.py", "null"],
      tangledTree.WalksThrough WalkRule.sources path) ∧
      Arguments.validate tangledTree { paths := ["suite", "venv"] } = .ok () ∧
      (∃ files, tangledTree.collect ["suite", "venv"] = .ok files) ∧
      Arguments.parse ["venv", "gone.py", "null"] = .ok { paths := ["venv", "gone.py", "null"] } ∧
      (run tangledTree ["venv", "gone.py", "null"]).status = 2 ∧
      (∃ fault, Arguments.FailsFor { paths := ["venv", "gone.py", "null"] } tangledTree fault ∧
        (run tangledTree ["venv", "gone.py", "null"]).failure = some fault.message) ∧
      validatePath tangledTree "gone.py" = .error (.missing "gone.py") ∧
      ∃ first, tangledTree.collect ["venv", "gone.py", "null"] = .error (.notFound first) := by
  have valid : Arguments.validate tangledTree { paths := ["suite", "venv"] } = .ok () := by
    refine Arguments.validate_eq_ok_iff.mpr ⟨?_, fun _ given => nomatch given⟩
    simp [isPresent_suite, isPresent_venv]
  have understood : Arguments.parse ["venv", "gone.py", "null"] =
      .ok { paths := ["venv", "gone.py", "null"] } := rfl
  have invalid : Arguments.validate tangledTree { paths := ["venv", "gone.py", "null"] } =
      .error (.missing "gone.py") := by
    refine bind_eq_error_iff.mpr (.inl (bind_eq_error_iff.mpr (.inr ⟨(), ?_, ?_⟩)))
    · exact validatePath_eq_ok_iff.mpr isPresent_venv
    · exact bind_eq_error_iff.mpr (.inl validatePath_gone)
  have opens : ∀ path ∈ ["venv", "gone.py", "null"],
      tangledTree.WalksThrough WalkRule.sources path := fun path isPath =>
    walksThrough_tangled path (List.mem_cons_of_mem _ isPath)
  have otherOpens : ∀ path ∈ ["suite", "venv"],
      tangledTree.WalksThrough WalkRule.sources path := fun path isPath =>
    walksThrough_tangled path (List.mem_append_left ["gone.py", "null"] isPath)
  have failed := (runArguments_eq_error_iff opens).mpr (Arguments.FailsFor.arguments _ invalid)
  have fatal : (run tangledTree ["venv", "gone.py", "null"]).status = 2 := by
    simp only [run, understood, failed, Outcome.failed]
  obtain ⟨collected, -, -⟩ :=
    collecting_follows_validation tangledTree { paths := ["suite", "venv"] } otherOpens
  obtain ⟨-, fails, refused⟩ :=
    collecting_follows_validation tangledTree { paths := ["venv", "gone.py", "null"] } opens
  obtain ⟨_, first, _, _, _, _, notFound⟩ := refused "gone.py" (by simp) ⟨_, validatePath_gone⟩
  exact ⟨walksThrough_tangled, valid, collected valid, understood, fatal,
    fails _ understood fatal, validatePath_gone, first, notFound⟩

end TagAudit
