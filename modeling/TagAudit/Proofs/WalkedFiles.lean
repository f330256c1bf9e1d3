/-
**The files that a walk finds.**

A walk leaves out whole directories on its way down and files one by one. What it finds is told by
the names that lead to a file: the directories between the root of the walk and the file must be
ones to go into, and the file itself has a name to list. The name of the root counts for nothing.

* `WalkRule.enters_iff`, `WalkRule.lists_iff`: the tests of a walk on one name;
* `Path.extension?_pathBelow`: a path below another one has the extension of its last name;
* `FileTree.Wanted` are the files to be found;
* `FileTree.walk_finds_wanted`: a walk from a directory finds them, each once, unless it comes to a
  directory that it cannot open.
-/

import TagAudit.Proofs.ProperTrees

namespace TagAudit

namespace WalkRule

theorem enters_iff {rule : WalkRule} {name : String} :
    rule.enters name = true ↔ name ∉ rule.excludedDirectories ∧
      (rule.excludeHidden = true → name.toList.head? ≠ some '.') := by
  simp only [enters, isHidden, Bool.and_eq_true, Bool.not_eq_true', Bool.and_eq_false_imp,
    beq_eq_false_iff_ne, List.contains_eq_mem, decide_eq_false_iff_not]
  exact and_comm

theorem lists_iff {rule : WalkRule} {name : String} :
    rule.lists name = true ↔ Path.extensionOf? name = some rule.extension ∧
      (rule.excludeHidden = true → name.toList.head? ≠ some '.') := by
  simp only [lists, isHidden, Bool.and_eq_true, Bool.not_eq_true', Bool.and_eq_false_imp,
    beq_eq_false_iff_ne, beq_iff_eq]
  exact and_comm

end WalkRule

/-- The extension of a path below another one is that of the last name below it. -/
theorem Path.extension?_pathBelow {path : String} (notEmpty : path ≠ "") {below : Place}
    {name : String} (isLast : below.getLast? = some name)
    (names : ∀ name ∈ below, Path.IsName name) :
    extension? (FileTree.pathBelow path below) = extensionOf? name := by
  have isBelow : below ≠ [] := by
    rintro rfl
    cases isLast
  have isName : (components (FileTree.pathBelow path below)).getLast? = some (.name name) := by
    rw [FileTree.components_pathBelow notEmpty isBelow names, List.getLast?_append,
      List.getLast?_map, isLast]
    rfl
  rw [extension?, fileName?, isName]
  rfl

namespace FileTree

/-- A file that a walk from a root is to find, by its place below the root. -/
structure Wanted (tree : FileTree) (rule : WalkRule) (root : String) (directory below : Place) :
    Prop where
  isFile : ∃ content, tree.entry? (directory ++ below) = some (.file content)
  extension : Path.extension? (pathBelow root below) = some rule.extension
  notHidden : rule.excludeHidden = true →
    ∀ name, below.getLast? = some name → name.toList.head? ≠ some '.'
  /-- The names between the root and the file lead through directories to go into. -/
  between : ∀ above name behind, below = above ++ name :: behind → behind ≠ [] →
    tree.entry? (directory ++ above ++ [name]) = some .directory ∧
      name ∉ rule.excludedDirectories ∧
      (rule.excludeHidden = true → name.toList.head? ≠ some '.')

/-- The names that lead to a file are tested as the walk goes down. -/
theorem opens_iff {tree : FileTree} {rule : WalkRule} {directory below : Place} :
    tree.Opens rule directory below ↔
      ∀ above name behind, below = above ++ name :: behind → behind ≠ [] →
        tree.entry? (directory ++ above ++ [name]) = some .directory ∧
          name ∉ rule.excludedDirectories ∧
          (rule.excludeHidden = true → name.toList.head? ≠ some '.') := by
  simp only [Opens, isDirectoryAt_iff, WalkRule.enters_iff]

/-- **The tests of a walk come down to the chain of names** that leads to a file. -/
theorem Proper.mem_filesBelow_iff_wanted {tree : FileTree} (proper : tree.Proper) {rule : WalkRule}
    {root : String} (notEmpty : root ≠ "") {directory below : Place}
    (isRoot : tree.entry? directory = some .directory) :
    below ∈ tree.filesBelow rule directory ↔ tree.Wanted rule root directory below := by
  rw [proper.mem_filesBelow_iff, opens_iff]
  constructor
  · rintro ⟨isBelow, between, ruled, content, isFile⟩
    obtain ⟨last, isLast, listed⟩ := (Option.any_eq_true _ _).mp ruled
    obtain ⟨extension, notHidden⟩ := WalkRule.lists_iff.mp listed
    have names := proper.names_of_entry? isBelow isFile
    refine ⟨⟨content, isFile⟩, ?_, ?_, between⟩
    · rw [Path.extension?_pathBelow notEmpty isLast names, extension]
    · rintro hidden name isName
      obtain rfl := Option.some.inj (isLast.symm.trans isName)
      exact notHidden hidden
  · rintro ⟨⟨content, isFile⟩, extension, notHidden, between⟩
    -- The root is a directory, so a file is not the root itself.
    have isBelow : below ≠ [] := by
      rintro rfl
      rw [List.append_nil, isRoot] at isFile
      cases isFile
    obtain ⟨last, isLast⟩ : ∃ last, below.getLast? = some last :=
      ⟨_, List.getLast?_eq_some_getLast isBelow⟩
    have names := proper.names_of_entry? isBelow isFile
    rw [Path.extension?_pathBelow notEmpty isLast names] at extension
    have listed := WalkRule.lists_iff.mpr ⟨extension, fun hidden => notHidden hidden last isLast⟩
    exact ⟨isBelow, between, (Option.any_eq_true _ _).mpr ⟨last, isLast, listed⟩, content, isFile⟩

/-- **A walk finds the files that its rule wants**, from any root that leads to a directory: each is
listed once, by the root joined with its place below the root. A walk that comes to a directory that
it cannot open lists nothing; it fails and tells which directory that is. -/
theorem walk_finds_wanted {tree : FileTree} (proper : tree.Proper) (rule : WalkRule)
    {root : String} (isDirectory : tree.isDirectory root = true) :
    ∃ (directory : Place) (found : List Place), tree.locate root = .ok directory ∧
      (tree.WalksThrough rule root ∧ tree.walk rule root = .ok (found.map (pathBelow root)) ∨
        ∃ fault, tree.StopsWalk rule root fault ∧
          tree.walk rule root = .error (.unscannable root fault)) ∧
      (found.map (pathBelow root)).Nodup ∧
      ∀ below, below ∈ found ↔ tree.Wanted rule root directory below := by
  have notEmpty : root ≠ "" := ne_empty_of_lookup ((tree.isDirectory_iff root).mp isDirectory)
  obtain ⟨directory, located, isRoot, walked⟩ := walk_of_directory isDirectory rule
  refine ⟨directory, _, located, walked, ?_, fun below => ?_⟩
  · refine (proper.nodup_filesBelow rule directory).map_on ?_
    intro below listed other otherListed same
    exact pathBelow_inj notEmpty (proper.mem_filesBelow_iff.mp listed).1
      (proper.mem_filesBelow_iff.mp otherListed).1 (proper.names_of_mem_filesBelow listed)
      (proper.names_of_mem_filesBelow otherListed) (by rw [same])
  · exact proper.mem_filesBelow_iff_wanted notEmpty isRoot

/-- Sources behind a link to a hidden directory. A directory and a file below it have one name. -/
def linkedTree : FileTree :=
  ⟨[(["work"], .directory), (["work", "suite"], .link ".tests"), (["work", ".tests"], .directory),
    (["work", ".tests", "unit"], .directory),
    (["work", ".tests", "unit", "build.py"], .file ByteArray.empty),
    (["work", ".tests", "build.py"], .directory),
    (["work", ".tests", "build.py", "test_old.py"], .file ByteArray.empty),
    (["work", ".tests", "cart.py"], .link "unit/build.py")], ["work"]⟩

theorem locate_linked : linkedTree.locate "suite" = .ok ["work", ".tests"] :=
  locate_link (by decide) rfl (by decide) rfl (by decide) (by decide) rfl rfl (by simp)

theorem linkedTree_proper : linkedTree.Proper := ⟨by decide, by decide⟩

/-- The walk comes to directories with short paths only. -/
theorem walksThrough_linked : linkedTree.WalksThrough ⟨"py", ["build.py"], true⟩ "suite" := by
  rintro fault ⟨-, ⟨directory, below, located, entered, isPath⟩, refused⟩
  obtain rfl := Except.ok.inj (locate_linked.symm.trans located)
  obtain ⟨isBelow, -, isDirectory, -⟩ := linkedTree_proper.mem_directoriesBelow_iff.mp entered
  have isEntry := (linkedTree_proper.entry?_eq_some_iff
    (List.append_ne_nil_of_right_ne_nil _ isBelow)).mp ((isDirectoryAt_iff _ _).mp isDirectory)
  have below : below = ["unit"] ∨ below = ["build.py"] := by
    simpa [linkedTree, isBelow] using isEntry
  rw [isPath] at refused
  obtain rfl | rfl := below
  · cases refused
  · cases refused

/-- The walk starts at a hidden directory and finds a file that has the name of a directory to be
left out; it finds nothing below that directory and nothing through the link. -/
theorem walk_finds_wanted_linked :
    linkedTree.Proper ∧ linkedTree.isDirectory "suite" = true ∧
      ∃ found : List Place,
        linkedTree.walk ⟨"py", ["build.py"], true⟩ "suite" = .ok (found.map (pathBelow "suite")) ∧
        ["unit", "build.py"] ∈ found ∧ ["build.py", "test_old.py"] ∉ found ∧
        ["cart.py"] ∉ found := by
  have isDirectory : linkedTree.isDirectory "suite" = true :=
    (isDirectory_iff _ _).mpr (lookup_eq_ok_iff.mpr ⟨_, locate_linked, rfl⟩)
  obtain ⟨directory, found, located, walked, _, isFound⟩ :=
    walk_finds_wanted linkedTree_proper ⟨"py", ["build.py"], true⟩ isDirectory
  obtain rfl : ["work", ".tests"] = directory := Except.ok.inj (locate_linked.symm.trans located)
  have lists := walked.resolve_right fun ⟨fault, stopped, _⟩ => walksThrough_linked fault stopped
  refine ⟨linkedTree_proper, isDirectory, found, lists.2, ?_, ?_, ?_⟩
  · have extension : Path.extension? (pathBelow "suite" ["unit", "build.py"]) = some "py" := by
      decide +kernel
    have opens : linkedTree.Opens ⟨"py", ["build.py"], true⟩ ["work", ".tests"]
        ["unit", "build.py"] :=
      opens_cons_iff.mpr ⟨rfl, by decide, opens_singleton _ _ _ _⟩
    refine (isFound _).mpr ⟨⟨_, rfl⟩, extension, ?_, opens_iff.mp opens⟩
    rintro - name isLast
    cases isLast
    decide
  · intro listed
    obtain ⟨-, excluded, -⟩ := ((isFound _).mp listed).between [] "build.py" ["test_old.py"] rfl
      (List.cons_ne_nil _ _)
    exact excluded (List.mem_singleton_self _)
  · intro listed
    obtain ⟨content, isFile⟩ := ((isFound _).mp listed).isFile
    cases isFile

end FileTree

end TagAudit
