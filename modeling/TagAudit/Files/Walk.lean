/-
**Finding source files.**

* `FileTree.walk` lists the regular files below a directory that have the wanted extension; it
  does not go into directories that are left out, and links below the directory are neither
  followed nor listed. It fails if it cannot open a directory that it goes into;
* `FileTree.collect` turns the paths of a run into the sorted list of its source files, equal
  paths taken once.
-/

import TagAudit.Files.Tree

namespace TagAudit

/-- Which files a walk lists. -/
structure WalkRule where
  extension : String
  excludedDirectories : List String
  excludeHidden : Bool
deriving Repr, DecidableEq

namespace WalkRule

/-- The rule for source files. -/
def sources : WalkRule where
  extension := "py"
  excludedDirectories :=
    [".git", "__pycache__", ".pytest_cache", ".tox", ".venv", "venv", "node_modules"]
  excludeHidden := true

/-- A name that starts with a dot. -/
def isHidden (name : String) : Bool := name.toList.head? == some '.'

/-- A walk goes into a directory of this name. -/
def enters (rule : WalkRule) (name : String) : Bool :=
  !(rule.excludeHidden && isHidden name) && !rule.excludedDirectories.contains name

/-- A walk lists a file of this name. -/
def lists (rule : WalkRule) (name : String) : Bool :=
  !(rule.excludeHidden && isHidden name) && Path.extensionOf? name == some rule.extension

end WalkRule

namespace FileTree

/-- The rest of a place below a directory; the directory itself is not below. -/
def below? (directory place : Place) : Option Place :=
  if directory.isPrefixOf place && directory ≠ place then some (place.drop directory.length)
  else none

/-- What stands in a directory, with its name there. -/
def children (tree : FileTree) (directory : Place) : List (String × FileEntry) :=
  tree.entries.filterMap fun pair =>
    match below? directory pair.1 with
    | some [name] => some (name, pair.2)
    | _ => none

/-- The length of the longest of some places. -/
def longest : List Place → Nat
  | [] => 0
  | place :: rest => max place.length (longest rest)

theorem length_le_longest {places : List Place} {place : Place} (member : place ∈ places) :
    place.length ≤ longest places := by
  induction places with
  | nil => cases member
  | cons first rest step =>
    rw [longest]
    rcases List.mem_cons.mp member with rfl | isLater
    · exact Nat.le_max_left _ _
    · exact Nat.le_trans (step isLater) (Nat.le_max_right _ _)

theorem below?_eq_some_iff {directory place below : Place} :
    below? directory place = some below ↔ place = directory ++ below ∧ below ≠ [] := by
  unfold below?
  constructor
  · intro found
    split at found
    next isBelow =>
      rw [Bool.and_eq_true, List.isPrefixOf_iff_prefix, decide_eq_true_eq] at isBelow
      obtain ⟨⟨rest, rfl⟩, different⟩ := isBelow
      obtain rfl : rest = below := by simpa using found
      exact ⟨rfl, fun empty => different (by rw [empty, List.append_nil])⟩
    next => cases found
  · rintro ⟨rfl, notEmpty⟩
    simp [notEmpty]

/-- What stands in a directory are the entries one name below it. -/
theorem mem_children_iff {tree : FileTree} {directory : Place} {name : String}
    {entry : FileEntry} :
    (name, entry) ∈ tree.children directory ↔ (directory ++ [name], entry) ∈ tree.entries := by
  unfold children
  rw [List.mem_filterMap]
  constructor
  · rintro ⟨pair, isEntry, found⟩
    split at found
    next isBelow =>
      obtain ⟨rfl, rfl⟩ := Prod.mk.inj (Option.some.inj found)
      rw [← (below?_eq_some_iff.mp isBelow).1]
      exact isEntry
    next => cases found
  · intro isEntry
    refine ⟨_, isEntry, ?_⟩
    simp only [below?_eq_some_iff.mpr ⟨rfl, List.cons_ne_nil name []⟩]

/-- A walk goes down to places that are longer, and no place is longer than the longest. -/
theorem length_lt_longest {tree : FileTree} {directory : Place} {child : String × FileEntry}
    (isChild : child ∈ tree.children directory) :
    directory.length < longest (tree.entries.map (·.1)) := by
  have isPlace : directory ++ [child.1] ∈ tree.entries.map (·.1) :=
    List.mem_map.mpr ⟨_, mem_children_iff.mp isChild, rfl⟩
  have bounded := length_le_longest isPlace
  rw [List.length_append] at bounded
  exact Nat.lt_of_succ_le bounded

/-- The entries that a walk visits below a directory, by their places below it: what stands in the
directory, and behind each directory that the rule goes into, what is visited below that one. A
directory that the rule does not go into is not visited at all. -/
def visits (tree : FileTree) (rule : WalkRule) (directory : Place) : List (Place × FileEntry) :=
  (tree.children directory).attach.flatMap fun ⟨(name, entry), _⟩ =>
    match entry with
    | .directory =>
      if rule.enters name then
        ([name], .directory) ::
          (tree.visits rule (directory ++ [name])).map fun (below, entry) => (name :: below, entry)
      else []
    | entry => [([name], entry)]
termination_by longest (tree.entries.map (·.1)) - directory.length
decreasing_by
  rename_i isChild _
  have bounded := length_lt_longest isChild
  simp only [List.length_append, List.length_cons, List.length_nil]
  omega

/-- What a walk visits on account of one entry of a directory. -/
def visitsOf (tree : FileTree) (rule : WalkRule) (directory : Place) (child : String × FileEntry) :
    List (Place × FileEntry) :=
  match child.2 with
  | .directory =>
    if rule.enters child.1 then
      ([child.1], .directory) ::
        (tree.visits rule (directory ++ [child.1])).map fun pair => (child.1 :: pair.1, pair.2)
    else []
  | entry => [([child.1], entry)]

/-- One step of a walk. -/
theorem visits_eq (tree : FileTree) (rule : WalkRule) (directory : Place) :
    tree.visits rule directory =
      (tree.children directory).flatMap (tree.visitsOf rule directory) := by
  rw [visits, List.flatMap_subtype (g := tree.visitsOf rule directory), List.unattach_attach]
  rintro ⟨name, entry⟩ isChild
  cases entry with
  | directory => rfl
  | file | link | device => rfl

/-- The regular files below a directory that the rule lists, by their places below it. -/
def filesBelow (tree : FileTree) (rule : WalkRule) (directory : Place) : List Place :=
  (tree.visits rule directory).filterMap fun (below, entry) =>
    match entry with
    | .file _ => if below.getLast?.any rule.lists then some below else none
    | _ => none

/-- The directories below a directory that a walk goes into, by their places below it. -/
def directoriesBelow (tree : FileTree) (rule : WalkRule) (directory : Place) : List Place :=
  (tree.visits rule directory).filterMap fun (below, entry) =>
    match entry with
    | .directory => some below
    | _ => none

/-- The path of a place below a path. -/
def pathBelow (path : String) (below : Place) : String :=
  Path.join path (String.intercalate "/" below)

/-- Opens the directories that a walk from `root` goes into. Each one is opened by its path, which
may be too long for that, and the first one that cannot be opened stops the walk. In which order
the operating system tells what stands in a directory is its own matter; here it is the order of
paths. -/
def openDirectories (root : String) (directories : List Place) : Except FileFault Unit :=
  ((directories.map (pathBelow root)).mergeSort Path.le).forM fun path =>
    (accept path).mapError fun cause => .unscannable root ⟨path, cause⟩

/-- The files that a walk from `root` lists. The root is gone into whatever its name; if it is a
regular file it is listed itself, if the rule lists it. -/
def walk (tree : FileTree) (rule : WalkRule) (root : String) : Except FileFault (List String) :=
  match tree.lookup root with
  | .error cause => .error (.unscannable root ⟨root, cause⟩)
  | .ok .directory =>
    match tree.locate root with
    | .error cause => .error (.unscannable root ⟨root, cause⟩)
    | .ok place => do
      openDirectories root (tree.directoriesBelow rule place)
      return (tree.filesBelow rule place).map (pathBelow root)
  | .ok (.file _) =>
    match tree.land false root with
    | .ok (.entry place) =>
      match tree.entry? place with
      | some (.file _) =>
        .ok (if rule.lists ((Path.fileName? root).getD root) then [root] else [])
      | _ => .ok []
    | _ => .ok []
  | .ok _ => .ok []

/-- The files that one path of a run stands for. -/
def expand (tree : FileTree) (path : String) : Except FileFault (List String) :=
  if tree.isFile path then .ok [path]
  else if tree.isDirectory path then tree.walk WalkRule.sources path
  else .error (.notFound path)

/-- Leaves out a path that is equal to the one before it. -/
def dropRepeated : List String → List String
  | [] => []
  | path :: rest =>
    path :: (match rest with
      | [] => []
      | next :: _ => if Path.same path next then (dropRepeated rest).tail else dropRepeated rest)

/-- The source files that the paths of a run stand for, in the order of paths, each once in its
first spelling. -/
def collect (tree : FileTree) (paths : List String) : Except FileFault (List String) := do
  let found ← paths.mapM tree.expand
  return dropRepeated (found.flatten.mergeSort Path.le)

end FileTree

end TagAudit
