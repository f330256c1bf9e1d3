/-
**Collecting again.**

The files of a run are paths themselves. Given as the paths of another run they are collected as
they are, since each file that a walk lists is a file by the path under which it is listed. There is
one exception: a listed path may be longer than what can be looked at.

* `FileTree.follow_append`: a path that leads to a place goes on from there;
* `FileTree.Storable.locate_pathBelow`: a listed path leads to the file for which it is listed;
* `FileTree.collect_of_files`: paths in strict order that lead to files are collected as they are;
* `FileTree.collect_again`: so are the files of a run, if no path is too long; and for other orders
  of the paths of a run the files are the same up to spelling;
* `FileTree.collected_too_long`: a path that is listed and cannot be looked at.
-/

import Mathlib.Data.List.Sort
import TagAudit.Proofs.Spellings

namespace TagAudit

namespace FileTree

/-! ### Paths that go on -/

section Follow

variable {tree : FileTree} {links : Nat} {place target : Place} {steps more : List String}

/-- **A path that leads to a place goes on from there**, with whatever links are left. -/
theorem follow_append {landing : Landing}
    (followed : tree.follow true links place steps = .ok (.entry target))
    (goesOn : ∀ left, tree.follow true left target more = .ok landing) :
    tree.follow true links place (steps ++ more) = .ok landing := by
  fun_induction FileTree.follow tree true links place steps with
  | case1 links place =>
    cases followed
    exact goesOn links
  | case2 | case5 | case6 | case7 | case8 | case9 => simp_all
  | case3 links place step rest inDirectory stays induct =>
    rw [List.cons_append, follow_here (by simpa using inDirectory) stays]
    exact induct followed
  | case4 links place rest inDirectory goes induct =>
    rw [List.cons_append, follow_parent (by simpa using inDirectory)]
    exact induct followed
  | case10 place step rest inDirectory goes notParent short below goal isLink notLast left induct =>
    have looks : tree.LooksFor place step := ⟨by simpa using inDirectory, goes, notParent, short⟩
    rw [List.cons_append, looks.follow_link isLink (by simp), ← List.append_assoc]
    exact induct followed
  | case11 links place step rest inDirectory goes notParent short below entry noLink isEntry
      induct =>
    have looks : tree.LooksFor place step := ⟨by simpa using inDirectory, goes, notParent, short⟩
    rw [List.cons_append, looks.follow_entry isEntry noLink]
    exact induct followed

/-- Paths that go on alike from every place lead alike. -/
theorem follow_append_congr {other : List String} (someMore : more ≠ []) (someOther : other ≠ [])
    (alike : ∀ left place, tree.follow true left place more = tree.follow true left place other) :
    tree.follow true links place (steps ++ more) =
      tree.follow true links place (steps ++ other) := by
  fun_induction FileTree.follow tree true links place steps with
  | case1 links place => exact alike links place
  | case2 links place step rest outside =>
    rw [List.cons_append, List.cons_append, follow_outside outside, follow_outside outside]
  | case3 links place step rest inDirectory stays induct =>
    have isDirectory : tree.isDirectoryAt place = true := by simpa using inDirectory
    rw [List.cons_append, List.cons_append, follow_here isDirectory stays,
      follow_here isDirectory stays, induct]
  | case4 links place rest inDirectory goes induct =>
    have isDirectory : tree.isDirectoryAt place = true := by simpa using inDirectory
    rw [List.cons_append, List.cons_append, follow_parent isDirectory, follow_parent isDirectory,
      induct]
  | case5 links place step rest inDirectory goes notParent long =>
    have isDirectory : tree.isDirectoryAt place = true := by simpa using inDirectory
    rw [List.cons_append, List.cons_append, follow_long isDirectory goes notParent long,
      follow_long isDirectory goes notParent long]
  | case6 links place step rest inDirectory goes notParent short below free
  | case7 links place step rest inDirectory goes notParent short below free =>
    have looks : tree.LooksFor place step := ⟨by simpa using inDirectory, goes, notParent, short⟩
    rw [List.cons_append, List.cons_append, looks.follow_free free, looks.follow_free free]
    simp [someMore, someOther]
  | case8 => simp_all
  | case9 place step rest inDirectory goes notParent short below goal isLink =>
    have looks : tree.LooksFor place step := ⟨by simpa using inDirectory, goes, notParent, short⟩
    rw [List.cons_append, List.cons_append, looks.follow_link_spent isLink (by simp),
      looks.follow_link_spent isLink (by simp)]
  | case10 place step rest inDirectory goes notParent short below goal isLink notLast left induct =>
    have looks : tree.LooksFor place step := ⟨by simpa using inDirectory, goes, notParent, short⟩
    rw [List.cons_append, List.cons_append, looks.follow_link isLink (by simp),
      looks.follow_link isLink (by simp), ← List.append_assoc, ← List.append_assoc, induct]
  | case11 links place step rest inDirectory goes notParent short below entry noLink isEntry
      induct =>
    have looks : tree.LooksFor place step := ⟨by simpa using inDirectory, goes, notParent, short⟩
    rw [List.cons_append, List.cons_append, looks.follow_entry isEntry noLink,
      looks.follow_entry isEntry noLink, induct]

/-- An empty step in front of a name makes no difference: both fail outside of directories. -/
theorem follow_empty (left : Nat) (place : Place) (name : String) (rest : List String) :
    tree.follow true left place ("" :: name :: rest) =
      tree.follow true left place (name :: rest) := by
  by_cases inDirectory : tree.isDirectoryAt place = true
  · exact follow_here inDirectory (by decide)
  · rw [follow_outside (by simpa using inDirectory), follow_outside (by simpa using inDirectory)]

/-- Names lead to a file if those before the last one lead through directories. -/
theorem follow_names {rule : WalkRule} {below : Place} (notEmpty : below ≠ [])
    (inDirectory : tree.isDirectoryAt place = true) (opens : tree.Opens rule place below)
    {content : ByteArray} (isFile : tree.entry? (place ++ below) = some (.file content))
    (names : ∀ name ∈ below, Path.IsName name)
    (short : ∀ name ∈ below, name.utf8ByteSize ≤ nameLimit) :
    tree.follow true links place below = .ok (.entry (place ++ below)) := by
  induction below generalizing place with
  | nil => exact absurd rfl notEmpty
  | cons name rest step =>
    obtain ⟨⟨someText, notHere, notParent, -⟩, restNames⟩ := List.forall_mem_cons.mp names
    obtain ⟨isShort, restShort⟩ := List.forall_mem_cons.mp short
    have looks : tree.LooksFor place name :=
      ⟨inDirectory, by simp [someText, notHere], notParent, Nat.not_lt.mpr isShort⟩
    cases rest with
    | nil => rw [looks.follow_entry isFile (by simp), FileTree.follow]
    | cons next rest =>
      obtain ⟨isDirectory, -, opensRest⟩ := opens_cons_iff.mp opens
      have behind : place ++ name :: next :: rest = place ++ [name] ++ next :: rest :=
        List.append_cons ..
      rw [looks.follow_entry ((tree.isDirectoryAt_iff _).mp isDirectory) (by simp)]
      rw [behind] at isFile ⊢
      exact step (List.cons_ne_nil _ _) isDirectory opensRest isFile restNames restShort

end Follow

/-! ### Files that a walk lists -/

/-- The steps of what stands below a path go on from where that leads. -/
theorem follow_pathBelow {tree : FileTree} {links : Nat} {start place : Place} {landing : Landing}
    {path : String} {below : Place} (notEmpty : path ≠ "") (isBelow : below ≠ [])
    (names : ∀ name ∈ below, Path.IsName name)
    (followed : tree.follow true links start (Path.steps path) = .ok (.entry place))
    (goesOn : ∀ left, tree.follow true left place below = .ok landing) :
    tree.follow true links start (Path.steps (pathBelow path below)) = .ok landing := by
  have behind := follow_append followed goesOn
  have steps : Path.steps (String.intercalate "/" below) = below :=
    Path.steps_intercalate isBelow fun name isName => (names name isName).2.2.2
  obtain added | ⟨stem, -, isPath, added⟩ :=
    Path.steps_join notEmpty (String.intercalate "/" below)
  · rw [pathBelow, added, steps, behind]
  · obtain ⟨name, rest, rfl⟩ := List.exists_cons_of_ne_nil isBelow
    have noDifference : tree.follow true links start (stem ++ "" :: name :: rest) =
        tree.follow true links start (stem ++ name :: rest) :=
      follow_append_congr (List.cons_ne_nil _ _) (List.cons_ne_nil _ _)
        fun left place => follow_empty left place name rest
    rw [isPath, List.append_assoc, List.singleton_append, noDifference] at behind
    rw [pathBelow, added, steps, behind]

/-- **A listed path leads to the file for which it is listed**, unless it is too long. -/
theorem Storable.locate_pathBelow {tree : FileTree} (storable : tree.Storable) {rule : WalkRule}
    {root : String} {directory below : Place} (located : tree.locate root = .ok directory)
    (isRoot : tree.entry? directory = some .directory)
    (listed : below ∈ tree.filesBelow rule directory)
    (short : (pathBelow root below).utf8ByteSize ≤ pathLimit) :
    tree.locate (pathBelow root below) = .ok (directory ++ below) := by
  obtain ⟨isBelow, opens, -, content, isFile⟩ := storable.mem_filesBelow_iff.mp listed
  have names := storable.names_of_mem_filesBelow listed
  have followed := (locate_eq_ok_iff.mp located).2
  have notEmpty := (accept_eq_ok_iff.mp (locate_eq_ok_iff.mp located).1).2.1
  have isStart : startOf (pathBelow root below) tree.workingDirectory =
      startOf root tree.workingDirectory := by
    rw [startOf, startOf, pathBelow, Path.isAbsolute_join notEmpty]
  have inDirectory : tree.isDirectoryAt directory = true := (tree.isDirectoryAt_iff _).mpr isRoot
  refine locate_eq_ok_iff.mpr ⟨?_, ?_⟩
  · rw [storable.accept_pathBelow isBelow isFile located, if_neg (Nat.not_lt.mpr short)]
  · rw [isStart]
    exact follow_pathBelow notEmpty isBelow names followed fun left =>
      follow_names isBelow inDirectory opens isFile names (storable.short_of_entry? isBelow isFile)

/-- What a path leads to can be looked at, so the path is not too long. -/
theorem utf8ByteSize_le_of_isPresent {tree : FileTree} {path : String}
    (present : tree.IsPresent path) : path.utf8ByteSize ≤ pathLimit := by
  obtain ⟨entry, leads⟩ : ∃ entry, tree.lookup path = .ok entry := by
    unfold IsPresent isFile isDirectory at present
    cases found : tree.lookup path with
    | ok entry => exact ⟨entry, rfl⟩
    | error cause => simp [found] at present
  obtain ⟨place, located, -⟩ := lookup_eq_ok_iff.mp leads
  exact (accept_eq_ok_iff.mp (locate_eq_ok_iff.mp located).1).2.2

/-- **A file of a run is a file by its path**, unless that is too long. -/
theorem Storable.isFile_of_collect {tree : FileTree} (storable : tree.Storable)
    {paths files : List String} (collected : tree.collect paths = .ok files) {file : String}
    (listed : file ∈ files) (short : file.utf8ByteSize ≤ pathLimit) : tree.isFile file = true := by
  rcases standFor_of_mem_collect collected listed with
    ⟨-, isFile⟩ | ⟨path, -, isDirectory, found, walked, isFound⟩
  · exact isFile
  · obtain ⟨place, located, isRoot, rfl⟩ := eq_filesBelow_of_walk isDirectory walked
    obtain ⟨below, isBelow, rfl⟩ := List.mem_map.mp isFound
    obtain ⟨-, -, -, content, isFile⟩ := storable.mem_filesBelow_iff.mp isBelow
    exact isFile_of_locate (storable.locate_pathBelow located isRoot isBelow short) isFile

/-! ### Paths collected again -/

/-- Of paths in strict order none is left out. -/
theorem dropRepeated_eq_self {paths : List String}
    (strict : paths.Pairwise fun first second => Path.key first < Path.key second) :
    dropRepeated paths = paths := by
  induction paths with
  | nil => rfl
  | cons path rest step =>
    obtain ⟨before, restStrict⟩ := List.pairwise_cons.mp strict
    cases rest with
    | nil => rfl
    | cons next rest =>
      have apart : ¬ Path.same path next = true := fun same =>
        (before next List.mem_cons_self).ne ((Path.same_iff_key_eq _ _).mp same)
      rw [dropRepeated, if_neg apart, step restStrict]

/-- **Paths in strict order that lead to files are collected as they are.** -/
theorem collect_of_files {tree : FileTree} {files : List String}
    (areFiles : ∀ file ∈ files, tree.isFile file = true)
    (strict : files.Pairwise fun first second => Path.key first < Path.key second) :
    tree.collect files = .ok files := by
  have itself : ∀ file ∈ files, tree.broughtBy file = [file] := fun file isFile =>
    if_pos (areFiles file isFile)
  have arrive : tree.arrivals files = files := by
    rw [arrivals, List.flatMap_congr itself, List.flatMap_singleton']
  have inOrder : files.Pairwise fun first second => Path.le first second = true :=
    strict.imp fun before => (Path.le_iff_key_le _ _).mpr before.le
  rw [collect_of_collectable fun file isFile => .inl (areFiles file isFile), arrive,
    List.mergeSort_of_pairwise inOrder, dropRepeated_eq_self strict]

/-- What is kept of some paths has the same components as the paths. -/
theorem mem_map_key_kept_iff {paths : List String} {key : List (Nat ×ₗ String)} :
    key ∈ (dropRepeated (paths.mergeSort Path.le)).map Path.key ↔ key ∈ paths.map Path.key := by
  constructor
  · intro isKey
    obtain ⟨file, kept, rfl⟩ := List.mem_map.mp isKey
    exact List.mem_map_of_mem (List.mem_of_find?_eq_some (mem_kept_iff.mp kept))
  · intro isKey
    obtain ⟨path, arrived, rfl⟩ := List.mem_map.mp isKey
    obtain ⟨file, kept, same⟩ := exists_kept arrived
    exact List.mem_map.mpr ⟨file, kept, (Path.same_iff_key_eq _ _).mp same⟩

/-- **In another order the paths of a run stand for the same files**, up to spelling. -/
theorem collect_of_perm {tree : FileTree} {paths others files : List String}
    (order : others.Perm paths) (collected : tree.collect paths = .ok files) :
    ∃ found, tree.collect others = .ok found ∧
      List.Forall₂ (fun file other => Path.same file other = true) found files := by
  have collectable := collectable_of_collect collected
  have otherCollectable : ∀ path ∈ others, tree.IsCollectable path := fun path isPath =>
    collectable path (order.mem_iff.mp isPath)
  obtain rfl := Except.ok.inj ((collect_of_collectable collectable).symm.trans collected)
  have arrive : (tree.arrivals others).Perm (tree.arrivals paths) := order.flatMap_right _
  have sameKeys : (dropRepeated ((tree.arrivals others).mergeSort Path.le)).map Path.key =
      (dropRepeated ((tree.arrivals paths).mergeSort Path.le)).map Path.key := by
    refine (List.pairwise_map.mpr (dropRepeated_strictly_ordered (sort_inOrder _))).eq_of_mem_iff
      (List.pairwise_map.mpr (dropRepeated_strictly_ordered (sort_inOrder _))) fun key => ?_
    rw [mem_map_key_kept_iff, mem_map_key_kept_iff, (arrive.map Path.key).mem_iff]
  refine ⟨_, collect_of_collectable otherCollectable, ?_⟩
  rw [← List.forall₂_eq_eq_eq, List.forall₂_map_left_iff, List.forall₂_map_right_iff] at sameKeys
  exact sameKeys.imp fun _ _ same => (Path.same_iff_key_eq _ _).mpr same

/-- **The files of a run are collected again as they are**, in the same spelling, if and only if
none of their paths is too long to be looked at. In any other order the paths of the run stand for
as many files, and these are the same up to spelling. -/
theorem collect_again {tree : FileTree} (storable : tree.Storable) {paths files : List String}
    (collected : tree.collect paths = .ok files) :
    (tree.collect files = .ok files ↔ ∀ file ∈ files, file.utf8ByteSize ≤ pathLimit) ∧
    ∀ others : List String, others.Perm paths → ∃ found, tree.collect others = .ok found ∧
      List.Forall₂ (fun file other => Path.same file other = true) found files := by
  refine ⟨⟨fun again file listed => ?_, fun short => ?_⟩, fun others order =>
    collect_of_perm order collected⟩
  · exact utf8ByteSize_le_of_isPresent (collectable_of_collect again file listed).isPresent
  · exact collect_of_files
      (fun file listed => storable.isFile_of_collect collected listed (short file listed))
      (collect_strictly_ordered collected)

theorem shopTree_storable : shopTree.Storable :=
  { shopTree_proper with short := by decide, noNull := by decide }

theorem collect_again_shop :
    shopTree.Storable ∧ shopTree.collect ["./cart.py", "."] = .ok ["./cart.py", "./shop.py"] ∧
      shopTree.collect ["./cart.py", "./shop.py"] = .ok ["./cart.py", "./shop.py"] ∧
      [".", "./cart.py"].Perm ["./cart.py", "."] ∧
      ∃ found, shopTree.collect [".", "./cart.py"] = .ok found ∧
        List.Forall₂ (fun file other => Path.same file other = true) found
          ["./cart.py", "./shop.py"] := by
  obtain ⟨again, inOrder⟩ := collect_again shopTree_storable collect_dotted_cart
  have order : [".", "./cart.py"].Perm ["./cart.py", "."] := List.Perm.swap _ _ _
  exact ⟨shopTree_storable, collect_dotted_cart, again.mpr (by decide), order, inOrder _ order⟩

/-! ### A path that is too long -/

/-- A working directory with one source. -/
def cartTree : FileTree :=
  ⟨[(["work"], .directory), (["work", "cart.py"], .file ByteArray.empty)], ["work"]⟩

/-- The path by which a walk lists that source, if its root is as long as a path may be. -/
def longCart : String := dotSlashes 4094 ++ "cart.py"

theorem collect_longDot : cartTree.collect [dotSlashes 4094] = .ok [longCart] := by
  have located : cartTree.locate (dotSlashes 4094) = .ok ["work"] :=
    locate_dotSlashes rfl (by decide)
  have opens : cartTree.WalksThrough WalkRule.sources (dotSlashes 4094) := by
    refine walksThrough_of_noDirectories located ?_
    rw [directoriesBelow, visits_eq]
    decide +kernel
  have below : cartTree.filesBelow WalkRule.sources ["work"] = [["cart.py"]] := by
    rw [filesBelow, visits_eq]
    decide +kernel
  have collectable : cartTree.IsCollectable (dotSlashes 4094) :=
    .inr ⟨isDirectory_of_locate located rfl, opens⟩
  rw [collect_of_collectable (List.forall_mem_singleton.mpr collectable), arrivals,
    List.flatMap_singleton, broughtBy_of_directory located rfl opens, below, List.map_singleton,
    pathBelow_dotSlashes 4093, List.mergeSort_singleton]
  rfl

/-- **A file that is collected may be missing when it is collected again**, because its path is
longer than what can be looked at. -/
theorem collected_too_long :
    cartTree.Storable ∧ cartTree.collect [dotSlashes 4094] = .ok [longCart] ∧
      cartTree.collect [longCart] = .error (.notFound longCart) := by
  have tooLong : ¬ longCart.utf8ByteSize ≤ pathLimit := by
    rw [longCart, String.utf8ByteSize_append, utf8ByteSize_dotSlashes]
    decide
  have missing : ¬ cartTree.IsPresent longCart := fun present =>
    tooLong (utf8ByteSize_le_of_isPresent present)
  refine ⟨⟨⟨by decide, by decide⟩, by decide, by decide⟩, collect_longDot, ?_⟩
  rw [collect, List.mapM_cons, expand_of_missing missing]
  rfl

end FileTree

end TagAudit
