/-
**Files are audited in isolation.**

Two file trees that differ only in what one file holds are searched alike: paths lead to the same
places, and the same source files are found or the search fails for the same cause. So the content
of the file decides over nothing but the results of paths that lead to it.

* `FileTree.AgreesBut.follow_eq`, `FileTree.AgreesBut.locate_eq`: a path leads to the same place;
* `FileTree.AgreesBut.read_eq`: a path that does not lead to the file reads as the same;
* `FileTree.AgreesBut.walk_endsAlike`: a walk finds the same files and comes to the same
  directories, whatever the order in which it does so;
* `FileTree.AgreesBut.expand_endsAlike`: a path of a run stands for the same source files;
* `FileTree.AgreesBut.collect_eq`: so do all paths of a run;
* `auditPaths_isolates`: the audits of both trees.
-/

import Mathlib.Data.List.Perm.Basic
import TagAudit.Proofs.PathOrder
import TagAudit.Proofs.ProperTrees
import TagAudit.Proofs.RunEffects

namespace TagAudit

namespace FileTree

/-- Both trees have the same directories, files, links and devices, and at most the file at the
place holds something else. -/
structure AgreesBut (place : Place) (first second : FileTree) : Prop where
  workingDirectory : first.workingDirectory = second.workingDirectory
  atPlace : ∃ content other,
    first.entry? place = some (.file content) ∧ second.entry? place = some (.file other)
  elsewhere : ∀ other, other ≠ place → first.entry? other = second.entry? other

/-! ### Where paths lead -/

section Leading

variable {place : Place} {first second : FileTree}

theorem AgreesBut.entry?_cases (agrees : AgreesBut place first second) (spot : Place) :
    first.entry? spot = second.entry? spot ∨ spot = place ∧ ∃ content other,
      first.entry? spot = some (.file content) ∧ second.entry? spot = some (.file other) := by
  by_cases atPlace : spot = place
  · rw [atPlace]
    exact .inr ⟨rfl, agrees.atPlace⟩
  · exact .inl (agrees.elsewhere spot atPlace)

namespace AgreesBut

variable (agrees : AgreesBut place first second)

include agrees

/-- What is no file is the same in both trees. -/
theorem entry?_of_noFile {spot : Place} {found : Option FileEntry}
    (isFound : first.entry? spot = found) (noFile : ∀ content, found ≠ some (.file content)) :
    second.entry? spot = found := by
  obtain same | ⟨_, content, _, isFile, _⟩ := agrees.entry?_cases spot
  · rw [← same, isFound]
  · exact absurd (isFound.symm.trans isFile) (noFile content)

theorem isDirectoryAt_eq (spot : Place) :
    second.isDirectoryAt spot = first.isDirectoryAt spot := by
  unfold isDirectoryAt
  obtain same | ⟨_, content, other, isFile, otherIsFile⟩ := agrees.entry?_cases spot
  · rw [same]
  · rw [isFile, otherIsFile]

theorem isDirectoryAt_of {spot : Place} (inDirectory : ¬ (!first.isDirectoryAt spot) = true) :
    second.isDirectoryAt spot = true := by
  rw [agrees.isDirectoryAt_eq]
  simpa using inDirectory

theorem looksFor {spot : Place} {name : String} (looks : first.LooksFor spot name) :
    second.LooksFor spot name :=
  { looks with inDirectory := (agrees.isDirectoryAt_eq spot).trans looks.inDirectory }

/-- **The steps of a path lead to the same place in both trees.** -/
theorem follow_eq (followLast : Bool) (links : Nat) (start : Place) (steps : List String) :
    second.follow followLast links start steps = first.follow followLast links start steps := by
  fun_induction FileTree.follow first followLast links start steps with
  | case1 links start => rw [FileTree.follow]
  | case2 links start name rest outside =>
    rw [follow_outside (by rw [agrees.isDirectoryAt_eq]; exact outside)]
  | case3 links start name rest inDirectory isHere step =>
    rw [follow_here (agrees.isDirectoryAt_of inDirectory) isHere]
    exact step
  | case4 links start rest inDirectory notHere step =>
    rw [follow_parent (agrees.isDirectoryAt_of inDirectory)]
    exact step
  | case5 links start name rest inDirectory notHere notParent long =>
    rw [follow_long (agrees.isDirectoryAt_of inDirectory) notHere notParent long]
  | case6 links start name rest inDirectory notHere notParent short next free isLast =>
    have looks := agrees.looksFor ⟨by simpa using inDirectory, notHere, notParent, short⟩
    rw [looks.follow_free (agrees.entry?_of_noFile free (by simp))]
    exact if_pos isLast
  | case7 links start name rest inDirectory notHere notParent short next free notLast =>
    have looks := agrees.looksFor ⟨by simpa using inDirectory, notHere, notParent, short⟩
    rw [looks.follow_free (agrees.entry?_of_noFile free (by simp))]
    exact if_neg notLast
  | case8 links start name rest inDirectory notHere notParent short next target isLink isLast =>
    have looks := agrees.looksFor ⟨by simpa using inDirectory, notHere, notParent, short⟩
    exact looks.follow_link_last (agrees.entry?_of_noFile isLink (by simp)) isLast
  | case9 start name rest inDirectory notHere notParent short next target isLink notLast =>
    have looks := agrees.looksFor ⟨by simpa using inDirectory, notHere, notParent, short⟩
    exact looks.follow_link_spent (agrees.entry?_of_noFile isLink (by simp)) notLast
  | case10 start name rest inDirectory notHere notParent short next target isLink notLast left
      step =>
    have looks := agrees.looksFor ⟨by simpa using inDirectory, notHere, notParent, short⟩
    rw [looks.follow_link (agrees.entry?_of_noFile isLink (by simp)) notLast]
    exact step
  | case11 links start name rest inDirectory notHere notParent short next entry noLink isEntry
      step =>
    have looks := agrees.looksFor ⟨by simpa using inDirectory, notHere, notParent, short⟩
    -- What stands here may be the file, but the path goes on from a file as from any other one.
    obtain same | ⟨_, _, _, _, otherIsFile⟩ := agrees.entry?_cases next
    · rw [looks.follow_entry (same.symm.trans isEntry) noLink]
      exact step
    · rw [looks.follow_entry otherIsFile (by simp)]
      exact step

theorem land_eq (followLast : Bool) (path : String) :
    second.land followLast path = first.land followLast path := by
  unfold land
  rw [agrees.workingDirectory]
  simp only [agrees.follow_eq]

theorem locate_eq (path : String) : second.locate path = first.locate path := by
  unfold locate
  rw [agrees.land_eq]

/-- What a path leads to is the same, or it is the file that differs. -/
theorem lookup_cases (path : String) :
    second.lookup path = first.lookup path ∨ first.locate path = .ok place ∧ ∃ content other,
      first.lookup path = .ok (.file content) ∧ second.lookup path = .ok (.file other) := by
  have otherLocate := agrees.locate_eq path
  cases located : first.locate path with
  | error cause =>
    left
    rw [located] at otherLocate
    unfold lookup
    rw [located, otherLocate]
    rfl
  | ok spot =>
    rw [located] at otherLocate
    rw [lookup_of_located located, lookup_of_located otherLocate]
    obtain same | ⟨rfl, content, other, isFile, otherIsFile⟩ := agrees.entry?_cases spot
    · exact .inl (by rw [same])
    · exact .inr ⟨rfl, content, other, by rw [isFile], by rw [otherIsFile]⟩

theorem isFile_eq (path : String) : second.isFile path = first.isFile path := by
  unfold isFile
  obtain same | ⟨_, content, other, isFile, otherIsFile⟩ := agrees.lookup_cases path
  · rw [same]
  · rw [isFile, otherIsFile]

theorem isDirectory_eq (path : String) : second.isDirectory path = first.isDirectory path := by
  unfold isDirectory
  obtain same | ⟨_, content, other, isFile, otherIsFile⟩ := agrees.lookup_cases path
  · rw [same]
  · rw [isFile, otherIsFile]

/-- **A path that does not lead to the file reads as the same.** -/
theorem read_eq {path : String} (apart : first.locate path ≠ .ok place) :
    second.read path = first.read path := by
  unfold read
  obtain same | ⟨leads, _⟩ := agrees.lookup_cases path
  · rw [same]
  · exact absurd leads apart

end AgreesBut

end Leading

/-! ### Which source files are found -/

/-- The same paths but for their order, where paths with equal components keep theirs. -/
def SameSpellings (paths others : List String) : Prop :=
  ∀ value, paths.filter (Path.key · = value) = others.filter (Path.key · = value)

theorem sameSpellings_refl (paths : List String) : SameSpellings paths paths := fun _ => rfl

/-- Paths in another order have the same spellings if their components tell them apart. -/
theorem sameSpellings_of_perm {paths others : List String} (perm : paths.Perm others)
    (apart : ∀ path ∈ paths, ∀ other ∈ paths, Path.key path = Path.key other → path = other) :
    SameSpellings paths others := by
  intro value
  -- Any relation holds in both lists, for all that is left has the same components.
  have always : ∀ left : List String, left.Pairwise fun _ _ => True := fun _ =>
    List.pairwise_of_forall fun _ _ => trivial
  refine List.Perm.eq_of_pairwise ?_ (always _) (always _) (perm.filter _)
  intro path other isPath isOther _ _
  rw [List.mem_filter, decide_eq_true_eq] at isPath isOther
  exact apart path isPath.1 other (perm.mem_iff.mpr isOther.1) (isPath.2.trans isOther.2.symm)

section Below

variable {path : String} {places others : List Place} (notEmpty : path ≠ "")
  (named : ∀ below ∈ places, below ≠ [] ∧ ∀ name ∈ below, Path.IsName name)
  (perm : places.Perm others)

include notEmpty named perm

/-- The paths of places below a path have the same spellings in any order of the places. -/
theorem sameSpellings_pathBelow :
    SameSpellings (places.map (pathBelow path)) (others.map (pathBelow path)) := by
  refine sameSpellings_of_perm (perm.map _) ?_
  intro one isOne another isAnother sameKey
  obtain ⟨below, isPlace, rfl⟩ := List.mem_map.mp isOne
  obtain ⟨otherBelow, isOther, rfl⟩ := List.mem_map.mp isAnother
  obtain ⟨isBelow, names⟩ := named below isPlace
  obtain ⟨otherIsBelow, otherNames⟩ := named otherBelow isOther
  have sameComponents := List.map_injective_iff.mpr Component.key_injective sameKey
  rw [pathBelow_inj notEmpty isBelow otherIsBelow names otherNames sameComponents]

/-- So they are opened alike, or opening them fails at the same one. -/
theorem openDirectories_eq : openDirectories path places = openDirectories path others := by
  unfold openDirectories
  rw [mergeSort_eq_of_filter_eq Path.le_iff_key_le (sameSpellings_pathBelow notEmpty named perm)]

end Below

theorem sameSpellings_flatten {found others : List (List String)}
    (each : List.Forall₂ SameSpellings found others) :
    SameSpellings found.flatten others.flatten := by
  intro value
  induction each with
  | nil => rfl
  | cons same _ step =>
    rw [List.flatten_cons, List.flatten_cons, List.filter_append, List.filter_append, same value,
      step]

section Finding

variable {place : Place} {first second : FileTree}

namespace AgreesBut

variable (agrees : AgreesBut place first second) (proper : first.Proper)
  (otherProper : second.Proper)

include agrees

theorem exists_file_iff (spot : Place) :
    (∃ content, second.entry? spot = some (.file content)) ↔
      ∃ content, first.entry? spot = some (.file content) := by
  obtain same | ⟨_, content, other, isFile, otherIsFile⟩ := agrees.entry?_cases spot
  · rw [same]
  · exact iff_of_true ⟨other, otherIsFile⟩ ⟨content, isFile⟩

theorem opens_iff (rule : WalkRule) (directory below : Place) :
    second.Opens rule directory below ↔ first.Opens rule directory below := by
  unfold Opens
  simp only [agrees.isDirectoryAt_eq]

include proper otherProper

/-- The same files are below a directory. -/
theorem filesBelow_perm (rule : WalkRule) (directory : Place) :
    (first.filesBelow rule directory).Perm (second.filesBelow rule directory) := by
  refine (List.perm_ext_iff_of_nodup (proper.nodup_filesBelow rule directory)
    (otherProper.nodup_filesBelow rule directory)).mpr fun below => ?_
  rw [proper.mem_filesBelow_iff, otherProper.mem_filesBelow_iff, agrees.exists_file_iff,
    agrees.opens_iff]

/-- A walk comes to the same directories. -/
theorem directoriesBelow_perm (rule : WalkRule) (directory : Place) :
    (first.directoriesBelow rule directory).Perm (second.directoriesBelow rule directory) := by
  refine (List.perm_ext_iff_of_nodup (proper.nodup_directoriesBelow rule directory)
    (otherProper.nodup_directoriesBelow rule directory)).mpr fun below => ?_
  rw [proper.mem_directoriesBelow_iff, otherProper.mem_directoriesBelow_iff, agrees.opens_iff,
    agrees.isDirectoryAt_eq]

/-- **A walk finds the same files in both trees**, or is stopped at the same directory. -/
theorem walk_endsAlike (rule : WalkRule) {path : String}
    (isDirectory : first.isDirectory path = true) :
    EndsAlike SameSpellings (first.walk rule path) (second.walk rule path) := by
  have otherIsDirectory := (agrees.isDirectory_eq path).trans isDirectory
  obtain ⟨directory, located, -, walked⟩ := walk_eq_bind isDirectory rule
  obtain ⟨other, otherLocated, -, otherWalked⟩ := walk_eq_bind otherIsDirectory rule
  obtain rfl : directory = other := by
    rw [agrees.locate_eq, located] at otherLocated
    exact Except.ok.inj otherLocated
  have notEmpty := ne_empty_of_lookup ((first.isDirectory_iff path).mp isDirectory)
  -- The trees may hold their entries in different orders, but paths tell all entries apart.
  have opened := openDirectories_eq notEmpty
    (fun below entered => ⟨(proper.mem_directoriesBelow_iff.mp entered).1,
      proper.names_of_mem_directoriesBelow entered⟩)
    (agrees.directoriesBelow_perm proper otherProper rule directory)
  have listed := sameSpellings_pathBelow notEmpty
    (fun below listed => ⟨(proper.mem_filesBelow_iff.mp listed).1,
      proper.names_of_mem_filesBelow listed⟩)
    (agrees.filesBelow_perm proper otherProper rule directory)
  rw [walked, otherWalked, opened]
  cases openDirectories path (second.directoriesBelow rule directory) with
  | error fault => exact .failed fault
  | ok value => exact .done listed

/-- **A path of a run stands for the same source files in both trees**, or for none in either. -/
theorem expand_endsAlike (path : String) :
    EndsAlike SameSpellings (first.expand path) (second.expand path) := by
  unfold expand
  rw [agrees.isFile_eq, agrees.isDirectory_eq]
  split
  · exact .done (sameSpellings_refl _)
  split
  next isDirectory => exact agrees.walk_endsAlike proper otherProper _ isDirectory
  · exact .failed _

/-- **A run finds the same source files in both trees**, or fails for the same cause. -/
theorem collect_eq (paths : List String) : second.collect paths = first.collect paths := by
  have expanded : EndsAlike (List.Forall₂ SameSpellings) (paths.mapM first.expand)
      (paths.mapM second.expand) :=
    EndsAlike.mapM fun path _ => agrees.expand_endsAlike proper otherProper path
  have collected : EndsAlike Eq (first.collect paths) (second.collect paths) := by
    refine expanded.bind fun found others each => .done ?_
    rw [mergeSort_eq_of_filter_eq Path.le_iff_key_le (sameSpellings_flatten each)]
  exact collected.eq.symm

end AgreesBut

end Finding

end FileTree

/-! ### The audits of both trees -/

theorem auditFile_eq {place : Place} {first second : FileTree}
    (agrees : FileTree.AgreesBut place first second) (settings : Settings) {path : String}
    (apart : first.locate path ≠ .ok place) :
    auditFile settings second path = auditFile settings first path := by
  unfold auditFile
  rw [agrees.read_eq apart]

/-- **Files are audited in isolation.** If two file trees differ only in what one file holds, the
audits of the same paths under the same settings fail for the same cause, or have results for the
same files in the same order, and every result for a path that does not lead to that file is the
same. -/
theorem auditPaths_isolates (settings : Settings) (paths : List String) (place : Place)
    (first second : FileTree) (proper : first.Proper) (otherProper : second.Proper)
    (agrees : FileTree.AgreesBut place first second) :
    EndsAlike (List.Forall₂ fun result other => result.path = other.path ∧
        (first.locate result.path ≠ .ok place → result = other))
      (auditPaths settings first paths) (auditPaths settings second paths) := by
  unfold auditPaths
  rw [agrees.collect_eq proper otherProper]
  cases collected : first.collect paths with
  | error fault => exact .failed fault
  | ok files =>
    refine .done ?_
    rw [List.forall₂_map_left_iff, List.forall₂_map_right_iff, List.forall₂_same]
    intro file _
    rw [path_auditFile, path_auditFile]
    exact ⟨rfl, fun apart => (auditFile_eq agrees settings apart).symm⟩

/-- A tree agrees with itself after a file of it has been set, but for that file. -/
theorem FileTree.agreesBut_setFile {tree : FileTree} {place : Place} {old : ByteArray}
    (isFile : tree.entry? place = some (.file old)) (content : ByteArray) :
    AgreesBut place tree (tree.setFile place content) where
  workingDirectory := by
    rw [setFile_eq]
    split <;> rfl
  atPlace := by
    have notRoot : place ≠ [] := by
      rintro rfl
      cases isFile
    exact ⟨old, content, isFile, tree.entry?_setFile_self notRoot content⟩
  elsewhere other different := (tree.entry?_setFile_of_ne different content).symm

/-- Two sources in a directory of tests, and a link to one of them. -/
def sourcesTree : FileTree :=
  ⟨[(["work"], .directory), (["work", "tests"], .directory),
    (["work", "tests", "test_cart.py"], .file "class TestCart:\n    pass\n".toUTF8),
    (["work", "tests", "test_login.py"], .file "class TestLogin:\n    pass\n".toUTF8),
    (["work", "latest.py"], .link "tests/test_cart.py")], ["work"]⟩

/-- The place of the source to which the link leads. -/
def cartPlace : Place := ["work", "tests", "test_cart.py"]

/-- The same tree after the source has been spoilt: it is no text any more. -/
def spoiltTree : FileTree := sourcesTree.setFile cartPlace ⟨#[0xff, 0xfe]⟩

theorem auditPaths_isolates_spoilt :
    sourcesTree.Proper ∧ spoiltTree.Proper ∧
      FileTree.AgreesBut cartPlace sourcesTree spoiltTree ∧
      EndsAlike (List.Forall₂ fun result other => result.path = other.path ∧
          (sourcesTree.locate result.path ≠ .ok cartPlace → result = other))
        (auditPaths Settings.standard sourcesTree ["latest.py", "tests"])
        (auditPaths Settings.standard spoiltTree ["latest.py", "tests"]) := by
  have proper : sourcesTree.Proper := ⟨by decide, by decide⟩
  have otherProper : spoiltTree.Proper := ⟨by decide, by decide⟩
  have agrees : FileTree.AgreesBut cartPlace sourcesTree spoiltTree :=
    FileTree.agreesBut_setFile rfl _
  exact ⟨proper, otherProper, agrees, auditPaths_isolates _ _ _ _ _ proper otherProper agrees⟩

end TagAudit
