/-
**The files of a run.**

The paths of a run are files and directories. Each file stands for itself and each directory for the
files that a walk finds below it; the files arrive in the order of the paths, are sorted by their
components, and of several spellings of one file the first to arrive is kept. All of this fails at
the first path that is missing or below which a directory cannot be opened.

* `FileTree.arrivals` are the files as they arrive, `FileTree.mem_arrivals_iff` says which these are;
* `FileTree.mem_dropRepeated_iff`: of paths in order, the first of each group of equal paths is kept;
* `FileTree.mem_kept_iff`: so a path is kept if it is the first of its group to arrive;
* `FileTree.expand_cases`: a path either brings its files or fails;
* `FileTree.collect_exact`: what the paths of a run stand for, or the first path that fails;
* `FileTree.long_directory_stops_collecting`: a path that is there may fail.
-/

import TagAudit.Proofs.LongPaths
import TagAudit.Proofs.PathOrder

namespace TagAudit

namespace FileTree

/-- What a path of a run can be. -/
def IsPresent (tree : FileTree) (path : String) : Prop :=
  tree.isFile path = true ∨ tree.isDirectory path = true

instance (tree : FileTree) (path : String) : Decidable (tree.IsPresent path) :=
  inferInstanceAs (Decidable (_ ∨ _))

/-- A path of a run that can be collected: a file, or a directory below which every directory that
the walk comes to can be opened. -/
def IsCollectable (tree : FileTree) (path : String) : Prop :=
  tree.isFile path = true ∨
    tree.isDirectory path = true ∧ tree.WalksThrough WalkRule.sources path

/-- How collecting fails at a path. -/
inductive FailsAt (tree : FileTree) (path : String) : FileFault → Prop where
  /-- The path is missing. -/
  | missing (absent : ¬ tree.IsPresent path) : tree.FailsAt path (.notFound path)
  /-- The walk from the path is stopped. -/
  | stopped (fault : ScanFault) (stops : tree.StopsWalk WalkRule.sources path fault) :
      tree.FailsAt path (.unscannable path fault)

/-- A file that the paths of a run stand for: one of them, or found by a walk from one of them. -/
def StandFor (tree : FileTree) (paths : List String) (file : String) : Prop :=
  file ∈ paths ∧ tree.isFile file = true ∨
    ∃ path ∈ paths, tree.isDirectory path = true ∧
      ∃ found, tree.walk WalkRule.sources path = .ok found ∧ file ∈ found

/-- The files that a path of a run brings. -/
def broughtBy (tree : FileTree) (path : String) : List String :=
  if tree.isFile path then [path] else (tree.walk WalkRule.sources path).toOption.getD []

/-- The files as they arrive, path by path. -/
def arrivals (tree : FileTree) (paths : List String) : List String := paths.flatMap tree.broughtBy

/-! ### The paths that are kept -/

/-- Leaving out repeated paths keeps the first path and takes away only paths equal to it. -/
theorem dropRepeated_cons (path : String) (rest : List String) :
    ∃ others, dropRepeated (path :: rest) = path :: others ∧
      ∀ file, Path.key file ≠ Path.key path → (file ∈ others ↔ file ∈ dropRepeated rest) := by
  cases rest with
  | nil => exact ⟨[], rfl, fun file _ => Iff.rfl⟩
  | cons next rest =>
    by_cases same : Path.same path next = true
    · refine ⟨(dropRepeated (next :: rest)).tail, by rw [dropRepeated, if_pos same], ?_⟩
      intro file apart
      have notNext : file ≠ next := by
        rintro rfl
        exact apart ((Path.same_iff_key_eq path file).mp same).symm
      obtain ⟨others, kept⟩ : ∃ others, dropRepeated (next :: rest) = next :: others := ⟨_, rfl⟩
      rw [kept, List.tail_cons, List.mem_cons, or_iff_right notNext]
    · exact ⟨dropRepeated (next :: rest), by rw [dropRepeated, if_neg same], fun file _ => Iff.rfl⟩

/-- **Of paths in order, the first of each group of equal paths is kept.** -/
theorem mem_dropRepeated_iff {paths : List String} (inOrder : SortedBy Path.key paths)
    {file : String} :
    file ∈ dropRepeated paths ↔ paths.find? (Path.same file) = some file := by
  induction paths with
  | nil => simp [dropRepeated]
  | cons path rest step =>
    obtain ⟨others, kept, othersOf⟩ := dropRepeated_cons path rest
    have strict := dropRepeated_strictly_ordered inOrder
    rw [kept] at strict ⊢
    by_cases same : Path.same file path = true
    · have notLater : file ∉ others := fun later =>
        ((List.pairwise_cons.mp strict).1 file later).ne' ((Path.same_iff_key_eq file path).mp same)
      rw [List.find?_cons_of_pos same, List.mem_cons, or_iff_left notLater, Option.some.injEq]
      exact eq_comm
    · have apart : Path.key file ≠ Path.key path := fun equal =>
        same ((Path.same_iff_key_eq file path).mpr equal)
      have notFirst : file ≠ path := fun equal => apart (congrArg Path.key equal)
      rw [List.find?_cons_of_neg same, List.mem_cons, or_iff_right notFirst, othersOf file apart]
      exact step (List.pairwise_cons.mp inOrder).2

/-- The first path equal to a given one is the same before and after the sort. -/
theorem find?_same_mergeSort (paths : List String) (file : String) :
    (paths.mergeSort Path.le).find? (Path.same file) = paths.find? (Path.same file) := by
  have isKey : Path.same file = fun path => decide (Path.key path = Path.key file) := by
    funext path
    rw [Bool.eq_iff_iff, Path.same_iff_key_eq, decide_eq_true_eq]
    exact eq_comm
  rw [isKey, ← List.head?_filter, ← List.head?_filter,
    filter_key_mergeSort Path.le_iff_key_le paths (Path.key file)]

/-- **A path is kept if it is the first of its group to arrive.** -/
theorem mem_kept_iff {paths : List String} {file : String} :
    file ∈ dropRepeated (paths.mergeSort Path.le) ↔ paths.find? (Path.same file) = some file := by
  rw [mem_dropRepeated_iff (sort_inOrder paths), find?_same_mergeSort]

-- Of three spellings of one file the first to arrive stays.
example : "a//b.py" ∈ dropRepeated (["c.py", "a//b.py", "a/./b.py", "a/b.py"].mergeSort Path.le) ∧
    "a/b.py" ∉ dropRepeated (["c.py", "a//b.py", "a/./b.py", "a/b.py"].mergeSort Path.le) := by
  rw [mem_kept_iff, mem_kept_iff]
  decide

/-- Each group of equal paths has one that is kept. -/
theorem exists_kept {paths : List String} {path : String} (arrived : path ∈ paths) :
    ∃ file ∈ dropRepeated (paths.mergeSort Path.le), Path.same file path = true := by
  obtain ⟨file, isFirst⟩ : ∃ file, paths.find? (Path.same path) = some file :=
    Option.isSome_iff_exists.mp (List.find?_isSome.mpr ⟨path, arrived, by simp [Path.same]⟩)
  have found : Path.same path file = true := List.find?_some isFirst
  have same : Path.components path = Path.components file := eq_of_beq found
  have sameGroup : Path.same file = Path.same path := by
    funext other
    rw [Path.same, Path.same, same]
  exact ⟨file, mem_kept_iff.mpr (by rw [sameGroup, isFirst]), by simp [Path.same, same]⟩

/-! ### What the paths of a run stand for -/

/-- No path leads both to a file and to a directory. -/
theorem isDirectory_eq_false_of_isFile {tree : FileTree} {path : String}
    (leads : tree.isFile path = true) : tree.isDirectory path = false := by
  unfold isFile at leads
  unfold isDirectory
  split at leads
  next content found => rw [found]
  next => cases leads

theorem IsCollectable.isPresent {tree : FileTree} {path : String}
    (collectable : tree.IsCollectable path) : tree.IsPresent path :=
  collectable.imp_right And.left

/-- Collecting does not fail at a path that can be collected. -/
theorem FailsAt.not_isCollectable {tree : FileTree} {path : String} {fault : FileFault}
    (fails : tree.FailsAt path fault) : ¬ tree.IsCollectable path := by
  intro collectable
  cases fails with
  | missing absent => exact absent collectable.isPresent
  | stopped fault stops =>
    obtain isFile | ⟨-, opens⟩ := collectable
    · have isDirectory := stops.isDirectory
      simp [isDirectory_eq_false_of_isFile isFile] at isDirectory
    · exact opens fault stops

theorem expand_of_missing {tree : FileTree} {path : String} (missing : ¬ tree.IsPresent path) :
    tree.expand path = .error (.notFound path) := by
  obtain ⟨noFile, noDirectory⟩ := not_or.mp missing
  rw [expand, if_neg noFile, if_neg noDirectory]

/-- **A path of a run brings its files, or it fails.** -/
theorem expand_cases (tree : FileTree) (path : String) :
    tree.IsCollectable path ∧ tree.expand path = .ok (tree.broughtBy path) ∨
      ∃ fault, tree.FailsAt path fault ∧ tree.expand path = .error fault := by
  by_cases present : tree.IsPresent path
  · unfold expand broughtBy
    by_cases isFile : tree.isFile path = true
    · rw [if_pos isFile, if_pos isFile]
      exact .inl ⟨.inl isFile, rfl⟩
    · have isDirectory : tree.isDirectory path = true := present.resolve_left isFile
      rw [if_neg isFile, if_neg isFile, if_pos isDirectory]
      obtain ⟨_, -, -, ⟨opens, walked⟩ | ⟨fault, stops, walked⟩⟩ :=
        walk_of_directory isDirectory WalkRule.sources
      · exact .inl ⟨.inr ⟨isDirectory, opens⟩, by rw [walked]; rfl⟩
      · exact .inr ⟨_, .stopped fault stops, walked⟩
  · exact .inr ⟨_, .missing present, expand_of_missing present⟩

theorem expand_of_isCollectable {tree : FileTree} {path : String}
    (collectable : tree.IsCollectable path) : tree.expand path = .ok (tree.broughtBy path) := by
  obtain ⟨-, expanded⟩ | ⟨fault, fails, -⟩ := expand_cases tree path
  · exact expanded
  · exact absurd collectable fails.not_isCollectable

theorem isCollectable_of_expand {tree : FileTree} {path : String} {found : List String}
    (expanded : tree.expand path = .ok found) : tree.IsCollectable path := by
  obtain ⟨collectable, -⟩ | ⟨fault, -, failed⟩ := expand_cases tree path
  · exact collectable
  · rw [expanded] at failed
    cases failed

theorem failsAt_of_expand {tree : FileTree} {path : String} {fault : FileFault}
    (failed : tree.expand path = .error fault) : tree.FailsAt path fault := by
  obtain ⟨-, expanded⟩ | ⟨other, fails, otherFailed⟩ := expand_cases tree path
  · rw [expanded] at failed
    cases failed
  · obtain rfl := Except.error.inj (failed.symm.trans otherFailed)
    exact fails

/-- A directory brings the sources below it. -/
theorem broughtBy_of_directory {tree : FileTree} {path : String} {place : Place}
    (located : tree.locate path = .ok place) (isDirectory : tree.entry? place = some .directory)
    (opens : tree.WalksThrough WalkRule.sources path) :
    tree.broughtBy path = (tree.filesBelow WalkRule.sources place).map (pathBelow path) := by
  have noFile : tree.isFile path = false := by
    rw [isFile, lookup_eq_ok_iff.mpr ⟨place, located, isDirectory⟩]
  rw [broughtBy, noFile, walk_of_walksThrough located isDirectory opens]
  rfl

/-- What a run collects from paths that can all be collected. -/
theorem collect_of_collectable {tree : FileTree} {paths : List String}
    (collectable : ∀ path ∈ paths, tree.IsCollectable path) :
    tree.collect paths = .ok (dropRepeated ((tree.arrivals paths).mergeSort Path.le)) := by
  rw [collect, mapM_eq_ok fun path isPath => expand_of_isCollectable (collectable path isPath)]
  rfl

theorem collectable_of_collect {tree : FileTree} {paths files : List String}
    (collected : tree.collect paths = .ok files) : ∀ path ∈ paths, tree.IsCollectable path := by
  obtain ⟨found, expanded, -⟩ := bind_eq_ok_iff.mp collected
  intro path isPath
  obtain ⟨brought, isBrought⟩ := exists_of_mapM_eq_ok expanded path isPath
  exact isCollectable_of_expand isBrought

/-- **Either all paths can be collected, or the first one that cannot decides the failure.** -/
theorem collect_cases (tree : FileTree) (paths : List String) :
    (∃ before path after fault, paths = before ++ path :: after ∧
      (∀ earlier ∈ before, tree.IsCollectable earlier) ∧ tree.FailsAt path fault ∧
      tree.collect paths = .error fault) ∨
    ∀ path ∈ paths, tree.IsCollectable path := by
  obtain ⟨found, expanded⟩ | ⟨before, path, after, fault, split, earlier, failed, stopped⟩ :=
    mapM_cases paths tree.expand
  · exact .inr (collectable_of_collect (bind_eq_ok_iff.mpr ⟨found, expanded, rfl⟩))
  · refine .inl ⟨before, path, after, fault, split, fun other isEarlier => ?_,
      failsAt_of_expand failed, bind_eq_error_iff.mpr (.inl stopped)⟩
    obtain ⟨_, expanded⟩ := earlier other isEarlier
    exact isCollectable_of_expand expanded

/-- The files that arrive are the ones that the paths stand for. -/
theorem mem_arrivals_iff {tree : FileTree} {paths : List String}
    (collectable : ∀ path ∈ paths, tree.IsCollectable path) {file : String} :
    file ∈ tree.arrivals paths ↔ tree.StandFor paths file := by
  rw [arrivals, List.mem_flatMap]
  constructor
  · rintro ⟨path, isPath, brought⟩
    by_cases isFile : tree.isFile path = true
    · rw [broughtBy, if_pos isFile, List.mem_singleton] at brought
      exact .inl (brought ▸ ⟨isPath, isFile⟩)
    · obtain ⟨isDirectory, -⟩ := (collectable path isPath).resolve_left isFile
      have walked := expand_of_isCollectable (collectable path isPath)
      rw [expand, if_neg isFile, if_pos isDirectory] at walked
      exact .inr ⟨path, isPath, isDirectory, _, walked, brought⟩
  · rintro (⟨isPath, isFile⟩ | ⟨path, isPath, isDirectory, found, walked, isFound⟩)
    · exact ⟨file, isPath, by simp [broughtBy, isFile]⟩
    · have noFile : ¬ tree.isFile path = true := fun isFile => by
        simp [isDirectory_eq_false_of_isFile isFile] at isDirectory
      refine ⟨path, isPath, ?_⟩
      rw [broughtBy, if_neg noFile, walked]
      exact isFound

/-- **The files of a run are what its paths stand for.** The first path that fails decides: one that
is neither a file nor a directory is not found, and a directory with a walk that is stopped cannot
be scanned. Without such a path, the files are in strict order, each is a path that the paths of the
run stand for, each such path is there up to spelling, and the spelling is the first one. -/
theorem collect_exact (tree : FileTree) (paths : List String) :
    (∃ before path after fault, paths = before ++ path :: after ∧
      (∀ earlier ∈ before, tree.IsCollectable earlier) ∧ tree.FailsAt path fault ∧
      tree.collect paths = .error fault) ∨
    (∀ path ∈ paths, tree.IsCollectable path) ∧ ∃ files, tree.collect paths = .ok files ∧
      (files.Pairwise fun first second =>
        Path.le first second = true ∧ Path.same first second = false) ∧
      (∀ file ∈ files, tree.StandFor paths file) ∧
      (∀ path, tree.StandFor paths path → ∃ file ∈ files, Path.same file path = true) ∧
      ∀ file ∈ files, (tree.arrivals paths).find? (Path.same file) = some file := by
  obtain failed | collectable := collect_cases tree paths
  · exact .inl failed
  · have collected := collect_of_collectable collectable
    refine .inr ⟨collectable, _, collected, ?_, ?_, ?_, ?_⟩
    · refine (collect_strictly_ordered collected).imp fun {first second} before => ?_
      refine ⟨(Path.le_iff_key_le _ _).mpr before.le, ?_⟩
      rw [Bool.eq_false_iff]
      exact fun same => before.ne ((Path.same_iff_key_eq _ _).mp same)
    · intro file kept
      exact (mem_arrivals_iff collectable).mp (List.mem_of_find?_eq_some (mem_kept_iff.mp kept))
    · intro path stands
      exact exists_kept ((mem_arrivals_iff collectable).mpr stands)
    · intro file kept
      exact mem_kept_iff.mp kept

/-- Two sources in the working directory. -/
def shopTree : FileTree :=
  ⟨[(["work"], .directory), (["work", "cart.py"], .file ByteArray.empty),
    (["work", "shop.py"], .file ByteArray.empty)], ["work"]⟩

theorem locate_shop : shopTree.locate "." = .ok ["work"] := locate_dot rfl

theorem isDirectory_shop : shopTree.isDirectory "." = true := isDirectory_of_locate locate_shop rfl

theorem walksThrough_shop : shopTree.WalksThrough WalkRule.sources "." := by
  refine walksThrough_of_noDirectories locate_shop ?_
  rw [directoriesBelow, visits_eq]
  decide +kernel

theorem isCollectable_shop : shopTree.IsCollectable "." :=
  .inr ⟨isDirectory_shop, walksThrough_shop⟩

theorem broughtBy_shop : shopTree.broughtBy "." = ["./cart.py", "./shop.py"] := by
  have below : shopTree.filesBelow WalkRule.sources ["work"] = [["cart.py"], ["shop.py"]] := by
    rw [filesBelow, visits_eq]
    decide +kernel
  rw [broughtBy_of_directory locate_shop rfl walksThrough_shop, below]
  decide +kernel

theorem locate_cart_in_shop : shopTree.locate "./cart.py" = .ok ["work", "cart.py"] := by
  have landed : shopTree.land true "./cart.py" = .ok (.entry ["work", "cart.py"]) := by
    refine bind_eq_ok_iff.mpr ⟨(), rfl, ?_⟩
    have steps : Path.steps "./cart.py" = [".", "cart.py"] := by decide
    have start : startOf "./cart.py" shopTree.workingDirectory = ["work"] := by decide
    have short : ¬ nameLimit < "cart.py".utf8ByteSize := by decide
    rw [steps, start]
    simp [follow, isDirectoryAt, entry?, shopTree, short]
  rw [locate, landed]

theorem isFile_cart_in_shop : shopTree.isFile "./cart.py" = true :=
  isFile_of_locate locate_cart_in_shop rfl

theorem collectable_dotted_cart : ∀ path ∈ ["./cart.py", "."], shopTree.IsCollectable path := by
  simp only [List.forall_mem_cons]
  exact ⟨.inl isFile_cart_in_shop, isCollectable_shop, List.forall_mem_nil _⟩

theorem arrivals_dotted_cart :
    shopTree.arrivals ["./cart.py", "."] = ["./cart.py", "./cart.py", "./shop.py"] := by
  have itself : shopTree.broughtBy "./cart.py" = ["./cart.py"] := if_pos isFile_cart_in_shop
  simp [arrivals, broughtBy_shop, itself]

/-- The directory brings two sources. One of them is given itself and is there once. -/
theorem collect_exact_shop :
    shopTree.expand "." = .ok ["./cart.py", "./shop.py"] ∧
      ∃ files, shopTree.collect ["./cart.py", "."] = .ok files ∧ "./cart.py" ∈ files ∧
        "./shop.py" ∈ files ∧ files.Pairwise fun first second =>
          Path.le first second = true ∧ Path.same first second = false := by
  have expanded : shopTree.expand "." = .ok ["./cart.py", "./shop.py"] :=
    (expand_of_isCollectable isCollectable_shop).trans (congrArg _ broughtBy_shop)
  obtain ⟨_, path, _, _, split, -, fails, -⟩ | ⟨-, files, collected, strict, -, all, first⟩ :=
    collect_exact shopTree ["./cart.py", "."]
  · refine absurd (collectable_dotted_cart path ?_) fails.not_isCollectable
    rw [split]
    simp
  · have each : ∀ file ∈ files, file = "./cart.py" ∨ file = "./shop.py" := by
      intro file listed
      have arrived := List.mem_of_find?_eq_some (first file listed)
      simpa [arrivals_dotted_cart] using arrived
    have stand : ∀ path ∈ ["./cart.py", "./shop.py"],
        shopTree.StandFor ["./cart.py", "."] path := by
      intro path isPath
      refine (mem_arrivals_iff collectable_dotted_cart).mp ?_
      rw [arrivals_dotted_cart]
      exact List.mem_cons_of_mem _ isPath
    refine ⟨expanded, files, collected, ?_, ?_, strict⟩
    · obtain ⟨file, listed, same⟩ := all "./cart.py" (stand _ (by decide))
      obtain rfl | rfl := each file listed
      · exact listed
      · exact absurd same (by decide +kernel)
    · obtain ⟨file, listed, same⟩ := all "./shop.py" (stand _ (by decide))
      obtain rfl | rfl := each file listed
      · exact absurd same (by decide +kernel)
      · exact listed

/-! ### A directory that cannot be opened -/

/-- A working directory with one source in a directory below it. -/
def nestedTree : FileTree :=
  ⟨[(["work"], .directory), (["work", "sub"], .directory),
    (["work", "sub", "cart.py"], .file ByteArray.empty)], ["work"]⟩

theorem nestedTree_storable : nestedTree.Storable :=
  ⟨⟨by decide, by decide⟩, by decide, by decide⟩

/-- The walk is stopped at the directory if the root is short enough and the directory is not. -/
theorem stopsWalk_nested {slashes : Nat} (short : slashes + 1 < pathLimit)
    (long : pathLimit < slashes + 5) :
    nestedTree.StopsWalk WalkRule.sources (dotSlashes (slashes + 1))
      ⟨pathBelow (dotSlashes (slashes + 1)) ["sub"], .nameTooLong⟩ := by
  have located : nestedTree.locate (dotSlashes (slashes + 1)) = .ok ["work"] :=
    locate_dotSlashes rfl short
  have isEntry : nestedTree.entry? (["work"] ++ ["sub"]) = some .directory := rfl
  have isBelow : ["sub"] ≠ [] := List.cons_ne_nil _ _
  have entered : ["sub"] ∈ nestedTree.directoriesBelow WalkRule.sources ["work"] :=
    nestedTree_storable.mem_directoriesBelow_iff.mpr
      ⟨isBelow, opens_singleton _ _ _ _, (isDirectoryAt_iff _ _).mpr isEntry, by decide⟩
  have tooLong : pathLimit < (pathBelow (dotSlashes (slashes + 1)) ["sub"]).utf8ByteSize := by
    rw [pathBelow_dotSlashes, String.utf8ByteSize_append, utf8ByteSize_dotSlashes]
    exact long
  refine ⟨isDirectory_of_locate located rfl, ⟨_, _, located, entered, rfl⟩, ?_⟩
  rw [nestedTree_storable.accept_pathBelow isBelow isEntry located, if_pos tooLong]

/-- **A path that is there may fail**: here it is as long as a path may be, so that the path of the
directory below it is too long. -/
theorem long_directory_stops_collecting :
    nestedTree.Storable ∧ (∀ path ∈ [dotSlashes 4094], nestedTree.IsPresent path) ∧
      ∃ fault,
        nestedTree.collect [dotSlashes 4094] = .error (.unscannable (dotSlashes 4094) fault) ∧
        pathLimit < fault.path.utf8ByteSize ∧ fault.cause = .nameTooLong := by
  have stops := @stopsWalk_nested 4093 (by decide) (by decide)
  have present : nestedTree.IsPresent (dotSlashes 4094) := .inr stops.isDirectory
  refine ⟨nestedTree_storable, List.forall_mem_singleton.mpr present, ?_⟩
  obtain ⟨collectable, -⟩ | ⟨_, fails, expanded⟩ := expand_cases nestedTree (dotSlashes 4094)
  · exact absurd collectable (FailsAt.stopped _ stops).not_isCollectable
  · cases fails with
    | missing absent => exact absurd present absent
    | stopped fault stops =>
      refine ⟨fault, ?_, nestedTree_storable.tooLong_of_stopsWalk stops⟩
      rw [collect, List.mapM_cons, expanded]
      rfl

end FileTree

end TagAudit
