/-
**Proper file trees.**

A file tree is proper if it has one entry for a place and if the names that lead to its entries are
names: they hold no slash, are not empty and are neither one dot nor two. In a proper tree a walk
lists the files below a directory, and each of them has a path that tells it from all others.

* `Path.steps_join`, `Path.components_join`: a path that is put behind another one adds its steps and
  its components to it;
* `FileTree.components_pathBelow`: the components of a path below another one;
* `FileTree.locate_name`, `FileTree.locate_link`: a name leads to what stands there in the working
  directory, and so does a link to the name;
* `FileTree.cons_mem_visits_iff`: what a walk visits at a place, from what it visits behind the first
  name of the place;
* `FileTree.walk_of_directory`: a walk from a directory lists the files below it, unless it comes to
  a directory that it cannot open;
* `FileTree.Proper.mem_visits_iff`: a walk visits an entry if it goes into every directory that leads
  to it, at any depth;
* `FileTree.Proper.mem_filesBelow_iff`, `FileTree.Proper.mem_directoriesBelow_iff`: so it lists what
  stands below a directory, and comes to the directories there, each once;
* `FileTree.pathBelow_inj`: what has different names below a path has different paths.
-/

import Mathlib.Data.List.Basic
import Mathlib.Data.List.Nodup
import TagAudit.Files.Walk
import TagAudit.Proofs.FileWrites
import TagAudit.Proofs.Pieces

namespace TagAudit

namespace Path

/-- The name of an entry in a directory. -/
def IsName (name : String) : Prop := name ≠ "" ∧ name ≠ "." ∧ name ≠ ".." ∧ '/' ∉ name.toList

instance (name : String) : Decidable (IsName name) := inferInstanceAs (Decidable (_ ∧ _))

/-! ### The components of a path behind another one -/

/-- A slash divides the steps of a path. -/
theorem steps_slash (path text : String) : steps (path ++ "/" ++ text) = steps path ++ steps text := by
  have characters : (path ++ "/" ++ text).toList = path.toList ++ '/' :: text.toList := by simp
  unfold steps
  rw [characters, pieces_eq_splitOn, pieces_eq_splitOn, pieces_eq_splitOn,
    List.splitOn_append_cons_self, List.map_append]

theorem steps_ne_nil (path : String) : steps path ≠ [] := by
  simp [steps, pieces_ne_nil]

/-- Names with slashes between them are steps. -/
theorem steps_intercalate {names : List String} (notEmpty : names ≠ [])
    (noSlash : ∀ name ∈ names, '/' ∉ name.toList) :
    steps (String.intercalate "/" names) = names := by
  have characters : (String.intercalate "/" names).toList =
      joinPieces '/' (names.map String.toList) := by
    rw [String.toList_intercalate, joinPieces_eq_intercalate]
    rfl
  unfold steps
  rw [characters]
  exact pieces_joinPieces notEmpty noSlash

/-- A name is one step. -/
theorem steps_isName {name : String} (isName : IsName name) : steps name = [name] := by
  have single := steps_intercalate (List.cons_ne_nil name []) (by simpa using isName.2.2.2)
  rw [String.intercalate_singleton] at single
  exact single

/-- The components that some steps stand for. -/
def ofSteps (absolute : Bool) : List String → List Component
  | [] => []
  | first :: rest =>
    (if absolute then [.root] else if first = "." then [.here] else (inner? first).toList) ++
      rest.filterMap inner?

theorem components_eq (path : String) : components path = ofSteps (isAbsolute path) (steps path) := by
  unfold components ofSteps
  cases steps path <;> rfl

theorem ofSteps_append (absolute : Bool) {steps : List String} (notEmpty : steps ≠ [])
    (more : List String) :
    ofSteps absolute (steps ++ more) = ofSteps absolute steps ++ more.filterMap inner? := by
  cases steps with
  | nil => exact absurd rfl notEmpty
  | cons first rest =>
    rw [List.cons_append, ofSteps, ofSteps, List.filterMap_append, List.append_assoc]

theorem isAbsolute_append {path : String} (notEmpty : path ≠ "") (text : String) :
    isAbsolute (path ++ text) = isAbsolute path := by
  have someCharacter : path.toList ≠ [] := fun none => notEmpty (String.toList_eq_nil_iff.mp none)
  unfold isAbsolute
  rw [String.toList_append, List.head?_append_of_ne_nil _ someCharacter]

/-- A path that is put behind another one adds its steps to it. If the other one ends with a slash,
that is the slash which divides them, and the empty step behind it is no step any more. -/
theorem steps_join {path : String} (notEmpty : path ≠ "") (text : String) :
    steps (join path text) = steps path ++ steps text ∨
      ∃ stem ≠ [], steps path = stem ++ [""] ∧ steps (join path text) = stem ++ steps text := by
  have isPath : path.isEmpty = false := by simpa using notEmpty
  unfold join
  rw [isPath, if_neg (by simp)]
  split
  next endsWithSlash =>
    obtain ⟨stem, rfl⟩ : ∃ stem, path = stem ++ "/" := by
      obtain ⟨front, isFront⟩ := List.getLast?_eq_some_iff.mp (eq_of_beq endsWithSlash)
      refine ⟨String.ofList front, String.toList_injective ?_⟩
      simp [isFront]
    have bare : steps (stem ++ "/") = steps stem ++ [""] := by
      have behind := steps_slash stem ""
      rw [String.append_empty] at behind
      exact behind
    exact .inr ⟨steps stem, steps_ne_nil stem, bare, steps_slash stem text⟩
  next => exact .inl (steps_slash path text)

theorem isAbsolute_join {path : String} (notEmpty : path ≠ "") (text : String) :
    isAbsolute (join path text) = isAbsolute path := by
  have isPath : path.isEmpty = false := by simpa using notEmpty
  unfold join
  rw [isPath, if_neg (by simp)]
  split
  next => exact isAbsolute_append notEmpty text
  next => rw [String.append_assoc, isAbsolute_append notEmpty]

/-- **A path that is put behind another one adds its components to it.** -/
theorem components_join {path : String} (notEmpty : path ≠ "") (text : String) :
    components (join path text) = components path ++ (steps text).filterMap inner? := by
  rw [components_eq, components_eq, isAbsolute_join notEmpty]
  obtain added | ⟨stem, someStep, isPath, added⟩ := steps_join notEmpty text
  · rw [added, ofSteps_append _ (steps_ne_nil path)]
  · rw [added, isPath, ofSteps_append _ someStep, ofSteps_append _ someStep]
    simp [inner?]

theorem filterMap_inner?_of_names {names : List String} (areNames : ∀ name ∈ names, IsName name) :
    names.filterMap inner? = names.map .name := by
  rw [← List.filterMap_eq_map]
  refine List.filterMap_congr fun name member => ?_
  obtain ⟨notEmpty, notHere, notParent, -⟩ := areNames name member
  simp [inner?, notEmpty, notHere, notParent]

end Path

namespace FileTree

/-- The components of a path below another one are those of the other one and the names behind
it. -/
theorem components_pathBelow {path : String} (notEmpty : path ≠ "") {below : Place}
    (isBelow : below ≠ []) (names : ∀ name ∈ below, Path.IsName name) :
    Path.components (pathBelow path below) = Path.components path ++ below.map .name := by
  have steps : Path.steps (String.intercalate "/" below) = below :=
    Path.steps_intercalate isBelow fun name member => (names name member).2.2.2
  rw [pathBelow, Path.components_join notEmpty, steps, Path.filterMap_inner?_of_names names]

/-! ### Names as paths -/

section Names

variable {tree : FileTree} {name : String} (isName : Path.IsName name)

include isName

/-- A name goes on from the directory in which it stands. -/
theorem startOf_isName (base : Place) : startOf name base = base := by
  have relative : Path.isAbsolute name = false := by
    rw [Path.isAbsolute, beq_eq_false_iff_ne]
    intro isSlash
    exact isName.2.2.2 (List.mem_of_head? isSlash)
  rw [startOf, relative]
  rfl

theorem land_isName (accepted : accept name = .ok ()) :
    tree.land true name = tree.follow true linkLimit tree.workingDirectory [name] := by
  rw [land, accepted, startOf_isName isName, Path.steps_isName isName]
  rfl

theorem looksFor_isName (short : ¬ nameLimit < name.utf8ByteSize) {place : Place}
    (inDirectory : tree.isDirectoryAt place = true) : tree.LooksFor place name :=
  ⟨inDirectory, by simp [isName.1, isName.2.1], isName.2.2.1, short⟩

/-- A name leads to what stands there in a directory, unless that is a link. -/
theorem follow_isName (short : ¬ nameLimit < name.utf8ByteSize) {links : Nat} {place : Place}
    (inDirectory : tree.isDirectoryAt place = true)
    (noLink : ∀ target, tree.entry? (place ++ [name]) ≠ some (.link target)) :
    tree.follow true links place [name] =
      .ok (if (tree.entry? (place ++ [name])).isSome then .entry (place ++ [name])
        else .vacant (place ++ [name])) := by
  have looks := looksFor_isName isName short inDirectory
  cases found : tree.entry? (place ++ [name]) with
  | none =>
    rw [looks.follow_free found]
    rfl
  | some entry =>
    have noLinkHere : ∀ target, entry ≠ .link target := by
      rintro target rfl
      exact noLink target found
    rw [looks.follow_entry found noLinkHere, FileTree.follow]
    rfl

variable (accepted : accept name = .ok ()) (short : ¬ nameLimit < name.utf8ByteSize)
  (inDirectory : tree.isDirectoryAt tree.workingDirectory = true)

include accepted short inDirectory

/-- **A name leads to what stands there in the working directory**, unless that is a link. -/
theorem locate_name {entry : FileEntry}
    (isEntry : tree.entry? (tree.workingDirectory ++ [name]) = some entry)
    (noLink : ∀ target, entry ≠ .link target) :
    tree.locate name = .ok (tree.workingDirectory ++ [name]) := by
  have noLinkHere : ∀ target,
      tree.entry? (tree.workingDirectory ++ [name]) ≠ some (.link target) := by
    intro target isLink
    exact noLink target (Option.some.inj (isEntry.symm.trans isLink))
  rw [locate, land_isName isName accepted, follow_isName isName short inDirectory noLinkHere, isEntry]
  rfl

/-- **A link to a name leads to what stands there**, unless that is a link again. -/
theorem land_link {target : String} (isTarget : Path.IsName target)
    (shortTarget : ¬ nameLimit < target.utf8ByteSize)
    (isLink : tree.entry? (tree.workingDirectory ++ [name]) = some (.link target))
    (noLink : ∀ farther, tree.entry? (tree.workingDirectory ++ [target]) ≠ some (.link farther)) :
    tree.land true name =
      .ok (if (tree.entry? (tree.workingDirectory ++ [target])).isSome
        then .entry (tree.workingDirectory ++ [target])
        else .vacant (tree.workingDirectory ++ [target])) := by
  have looks := looksFor_isName isName short inDirectory
  rw [land_isName isName accepted, linkLimit, looks.follow_link isLink (by simp),
    startOf_isName isTarget, Path.steps_isName isTarget, List.append_nil,
    follow_isName isTarget shortTarget inDirectory noLink]

theorem locate_link {target : String} {entry : FileEntry} (isTarget : Path.IsName target)
    (shortTarget : ¬ nameLimit < target.utf8ByteSize)
    (isLink : tree.entry? (tree.workingDirectory ++ [name]) = some (.link target))
    (isEntry : tree.entry? (tree.workingDirectory ++ [target]) = some entry)
    (noLink : ∀ farther, entry ≠ .link farther) :
    tree.locate name = .ok (tree.workingDirectory ++ [target]) := by
  have noLinkThere : ∀ farther,
      tree.entry? (tree.workingDirectory ++ [target]) ≠ some (.link farther) := by
    intro farther isLink
    exact noLink farther (Option.some.inj (isEntry.symm.trans isLink))
  rw [locate, land_link isName accepted short inDirectory isTarget shortTarget isLink noLinkThere,
    isEntry]
  rfl

/-- A link to a name at which nothing stands leads nowhere. -/
theorem locate_link_vacant {target : String} (isTarget : Path.IsName target)
    (shortTarget : ¬ nameLimit < target.utf8ByteSize)
    (isLink : tree.entry? (tree.workingDirectory ++ [name]) = some (.link target))
    (free : tree.entry? (tree.workingDirectory ++ [target]) = none) :
    tree.locate name = .error .noSuchFile := by
  have noLinkThere : ∀ farther,
      tree.entry? (tree.workingDirectory ++ [target]) ≠ some (.link farther) := by simp [free]
  rw [locate, land_link isName accepted short inDirectory isTarget shortTarget isLink noLinkThere,
    free]
  rfl

end Names

/-! ### What a walk lists -/

/-- A path leads to an entry if it can be looked at and its steps lead there. -/
theorem locate_eq_ok_iff {tree : FileTree} {path : String} {place : Place} :
    tree.locate path = .ok place ↔
      accept path = .ok () ∧
        tree.follow true linkLimit (startOf path tree.workingDirectory) (Path.steps path) =
          .ok (.entry place) := by
  rw [locate_eq_ok_iff_land]
  refine bind_eq_ok_iff.trans ⟨?_, fun ⟨accepted, followed⟩ => ⟨(), accepted, followed⟩⟩
  rintro ⟨_, accepted, followed⟩
  exact ⟨accepted, followed⟩

/-- A path leads to what stands at the place it leads to. -/
theorem lookup_eq_ok_iff {tree : FileTree} {path : String} {entry : FileEntry} :
    tree.lookup path = .ok entry ↔
      ∃ place, tree.locate path = .ok place ∧ tree.entry? place = some entry := by
  refine bind_eq_ok_iff.trans (exists_congr fun place => and_congr_right fun _ => ?_)
  cases tree.entry? place with
  | none => simp
  | some found => simp

/-- What stands in the working directory is found by its name, unless it is a link. -/
theorem lookup_name {tree : FileTree} {name : String} {entry : FileEntry}
    (isName : Path.IsName name) (accepted : accept name = .ok ())
    (short : ¬ nameLimit < name.utf8ByteSize)
    (inDirectory : tree.isDirectoryAt tree.workingDirectory = true)
    (isEntry : tree.entry? (tree.workingDirectory ++ [name]) = some entry)
    (noLink : ∀ target, entry ≠ .link target) : tree.lookup name = .ok entry :=
  lookup_eq_ok_iff.mpr ⟨_, locate_name isName accepted short inDirectory isEntry noLink, isEntry⟩

/-- A file in the working directory is read by its name. -/
theorem read_name {tree : FileTree} {name : String} {content : ByteArray}
    (isName : Path.IsName name) (accepted : accept name = .ok ())
    (short : ¬ nameLimit < name.utf8ByteSize)
    (inDirectory : tree.isDirectoryAt tree.workingDirectory = true)
    (isFile : tree.entry? (tree.workingDirectory ++ [name]) = some (.file content)) :
    tree.read name = .ok content :=
  bind_eq_ok_iff.mpr
    ⟨_, lookup_name isName accepted short inDirectory isFile (by simp), rfl⟩

/-- A path that is empty leads nowhere. -/
theorem ne_empty_of_lookup {tree : FileTree} {path : String} {entry : FileEntry}
    (leads : tree.lookup path = .ok entry) : path ≠ "" := by
  rintro rfl
  obtain ⟨place, located, _⟩ := lookup_eq_ok_iff.mp leads
  cases located

theorem isDirectory_iff (tree : FileTree) (path : String) :
    tree.isDirectory path = true ↔ tree.lookup path = .ok .directory := by
  unfold isDirectory
  split <;> simp_all

theorem isDirectory_of_locate {tree : FileTree} {path : String} {place : Place}
    (located : tree.locate path = .ok place) (isDirectory : tree.entry? place = some .directory) :
    tree.isDirectory path = true :=
  (tree.isDirectory_iff path).mpr (lookup_eq_ok_iff.mpr ⟨place, located, isDirectory⟩)

theorem isFile_of_locate {tree : FileTree} {path : String} {place : Place} {content : ByteArray}
    (located : tree.locate path = .ok place) (isFile : tree.entry? place = some (.file content)) :
    tree.isFile path = true := by
  rw [FileTree.isFile, lookup_eq_ok_iff.mpr ⟨place, located, isFile⟩]

/-- A walk from a root that is a directory comes to a directory below it that cannot be opened by
its path. -/
structure StopsWalk (tree : FileTree) (rule : WalkRule) (root : String) (fault : ScanFault) :
    Prop where
  isDirectory : tree.isDirectory root = true
  isBelow : ∃ directory below, tree.locate root = .ok directory ∧
    below ∈ tree.directoriesBelow rule directory ∧ fault.path = pathBelow root below
  refused : accept fault.path = .error fault.cause

/-- A walk from a root can open every directory that it comes to. -/
def WalksThrough (tree : FileTree) (rule : WalkRule) (root : String) : Prop :=
  ∀ fault, ¬ tree.StopsWalk rule root fault

theorem openDirectories_eq_ok_iff {root : String} {directories : List Place} :
    openDirectories root directories = .ok () ↔
      ∀ below ∈ directories, accept (pathBelow root below) = .ok () := by
  unfold openDirectories
  rw [forM_eq_ok_iff]
  simp only [mapError_eq_ok_iff, List.mem_mergeSort, List.forall_mem_map]

/-- A directory that cannot be opened is one of those that the walk comes to. -/
theorem exists_of_openDirectories_eq_error {root : String} {directories : List Place}
    {fault : FileFault} (failed : openDirectories root directories = .error fault) :
    ∃ below ∈ directories, ∃ cause, accept (pathBelow root below) = .error cause ∧
      fault = .unscannable root ⟨pathBelow root below, cause⟩ := by
  obtain ⟨path, isPath, refused⟩ := exists_of_forM_eq_error failed
  obtain ⟨below, isBelow, rfl⟩ := List.mem_map.mp (List.mem_mergeSort.mp isPath)
  obtain ⟨cause, unopened, same⟩ := mapError_eq_error_iff.mp refused
  exact ⟨below, isBelow, cause, unopened, same.symm⟩

/-- The two steps of a walk from a directory. -/
theorem walk_eq_bind {tree : FileTree} {path : String}
    (isDirectory : tree.isDirectory path = true) (rule : WalkRule) :
    ∃ place, tree.locate path = .ok place ∧ tree.entry? place = some .directory ∧
      tree.walk rule path = openDirectories path (tree.directoriesBelow rule place) >>= fun _ =>
        .ok ((tree.filesBelow rule place).map (pathBelow path)) := by
  have leads := (tree.isDirectory_iff path).mp isDirectory
  obtain ⟨place, located, atPlace⟩ := lookup_eq_ok_iff.mp leads
  refine ⟨place, located, atPlace, ?_⟩
  rw [walk, leads, located]
  rfl

/-- **A walk from a directory lists the files below it**, unless it is stopped. -/
theorem walk_of_directory {tree : FileTree} {path : String}
    (isDirectory : tree.isDirectory path = true) (rule : WalkRule) :
    ∃ place, tree.locate path = .ok place ∧ tree.entry? place = some .directory ∧
      (tree.WalksThrough rule path ∧
          tree.walk rule path = .ok ((tree.filesBelow rule place).map (pathBelow path)) ∨
        ∃ fault, tree.StopsWalk rule path fault ∧
          tree.walk rule path = .error (.unscannable path fault)) := by
  obtain ⟨place, located, atPlace, walked⟩ := walk_eq_bind isDirectory rule
  refine ⟨place, located, atPlace, ?_⟩
  cases opened : openDirectories path (tree.directoriesBelow rule place) with
  | ok value =>
    refine .inl ⟨?_, by rw [walked, opened]; rfl⟩
    -- A directory that stops the walk would be one of those that have been opened.
    rintro fault ⟨-, ⟨directory, below, otherLocated, isBelow, isPath⟩, refused⟩
    obtain rfl := Except.ok.inj (located.symm.trans otherLocated)
    rw [isPath, openDirectories_eq_ok_iff.mp opened below isBelow] at refused
    cases refused
  | error fault =>
    obtain ⟨below, isBelow, cause, refused, rfl⟩ := exists_of_openDirectories_eq_error opened
    refine .inr ⟨⟨pathBelow path below, cause⟩, ?_, by rw [walked, opened]; rfl⟩
    exact ⟨isDirectory, ⟨place, below, located, isBelow, rfl⟩, refused⟩

/-- What a walk from a directory lists are the files below it. -/
theorem eq_filesBelow_of_walk {tree : FileTree} {path : String}
    (isDirectory : tree.isDirectory path = true) {rule : WalkRule} {found : List String}
    (walked : tree.walk rule path = .ok found) :
    ∃ place, tree.locate path = .ok place ∧ tree.entry? place = some .directory ∧
      found = (tree.filesBelow rule place).map (pathBelow path) := by
  obtain ⟨place, located, atPlace, ⟨-, lists⟩ | ⟨_, -, stopped⟩⟩ :=
    walk_of_directory isDirectory rule
  · exact ⟨place, located, atPlace, Except.ok.inj (walked.symm.trans lists)⟩
  · rw [walked] at stopped
    cases stopped

theorem walk_of_walksThrough {tree : FileTree} {rule : WalkRule} {path : String} {place : Place}
    (located : tree.locate path = .ok place) (isDirectory : tree.entry? place = some .directory)
    (opens : tree.WalksThrough rule path) :
    tree.walk rule path = .ok ((tree.filesBelow rule place).map (pathBelow path)) := by
  obtain ⟨other, otherLocated, -, ⟨-, walked⟩ | ⟨fault, stops, -⟩⟩ :=
    walk_of_directory (isDirectory_of_locate located isDirectory) rule
  · obtain rfl := Except.ok.inj (located.symm.trans otherLocated)
    exact walked
  · exact absurd stops (opens fault)

/-- A walk that goes into no directory is not stopped. -/
theorem walksThrough_of_noDirectories {tree : FileTree} {rule : WalkRule} {root : String}
    {directory : Place} (located : tree.locate root = .ok directory)
    (noDirectories : tree.directoriesBelow rule directory = []) : tree.WalksThrough rule root := by
  rintro fault ⟨-, ⟨other, below, otherLocated, isBelow, -⟩, -⟩
  obtain rfl := Except.ok.inj (located.symm.trans otherLocated)
  rw [noDirectories] at isBelow
  cases isBelow

/-- One entry for a place, and names that are names. -/
structure Proper (tree : FileTree) : Prop where
  distinct : (tree.entries.map Prod.fst).Nodup
  names : ∀ place ∈ tree.entries.map Prod.fst, ∀ name ∈ place, Path.IsName name

/-- A walk visits an entry of a directory, unless that is a directory it does not go into, and
behind a directory that it goes into what it visits below that one. -/
theorem mem_visitsOf_iff {tree : FileTree} {rule : WalkRule} {directory : Place}
    {child : String × FileEntry} {pair : Place × FileEntry} :
    pair ∈ tree.visitsOf rule directory child ↔
      (child.2 = .directory → rule.enters child.1 = true) ∧
        (pair = ([child.1], child.2) ∨ child.2 = .directory ∧
          ∃ inner ∈ tree.visits rule (directory ++ [child.1]),
            pair = (child.1 :: inner.1, inner.2)) := by
  obtain ⟨name, entry⟩ := child
  cases entry with
  | directory =>
    by_cases entered : rule.enters name = true
    · simp [visitsOf, entered, eq_comm]
    · simp [visitsOf, entered]
  | file | link | device => simp [visitsOf]

/-- The first name of what is visited on account of an entry is the name of the entry. -/
theorem head?_of_mem_visitsOf {tree : FileTree} {rule : WalkRule} {directory : Place}
    {child : String × FileEntry} {pair : Place × FileEntry}
    (visited : pair ∈ tree.visitsOf rule directory child) : pair.1.head? = some child.1 := by
  obtain ⟨-, rfl | ⟨-, inner, -, rfl⟩⟩ := mem_visitsOf_iff.mp visited
  · rfl
  · rfl

/-- The directory itself is not visited. -/
theorem nil_notMem_visits {tree : FileTree} {rule : WalkRule} {directory : Place}
    {entry : FileEntry} : ([], entry) ∉ tree.visits rule directory := by
  rw [visits_eq, List.mem_flatMap]
  rintro ⟨child, -, visited⟩
  obtain ⟨-, itself | ⟨-, inner, -, behind⟩⟩ := mem_visitsOf_iff.mp visited
  · cases itself
  · cases behind

/-- What a walk visits at a place whose first name is given. -/
theorem cons_mem_visits_iff {tree : FileTree} {rule : WalkRule} {directory : Place}
    {name : String} {rest : Place} {entry : FileEntry} :
    (name :: rest, entry) ∈ tree.visits rule directory ↔
      rest = [] ∧ (name, entry) ∈ tree.children directory ∧
        (entry = .directory → rule.enters name = true) ∨
      (name, .directory) ∈ tree.children directory ∧ rule.enters name = true ∧
        (rest, entry) ∈ tree.visits rule (directory ++ [name]) := by
  rw [visits_eq, List.mem_flatMap]
  constructor
  · rintro ⟨⟨child, found⟩, isChild, visited⟩
    obtain ⟨entered, itself | ⟨isDirectory, inner, isInner, behind⟩⟩ := mem_visitsOf_iff.mp visited
    · cases itself
      exact .inl ⟨rfl, isChild, entered⟩
    · cases behind
      cases isDirectory
      exact .inr ⟨isChild, entered rfl, isInner⟩
  · rintro (⟨rfl, isChild, entered⟩ | ⟨isChild, entered, visited⟩)
    · exact ⟨_, isChild, mem_visitsOf_iff.mpr ⟨entered, .inl rfl⟩⟩
    · exact ⟨_, isChild, mem_visitsOf_iff.mpr ⟨fun _ => entered, .inr ⟨rfl, _, visited, rfl⟩⟩⟩

/-- What is visited on account of an entry has different places if what is visited below it has. -/
theorem visitsOf_distinct {tree : FileTree} {rule : WalkRule} {directory : Place}
    {child : String × FileEntry}
    (inside : child.2 = .directory → (tree.visits rule (directory ++ [child.1])).Pairwise
      fun pair other => pair.1 ≠ other.1) :
    (tree.visitsOf rule directory child).Pairwise fun pair other => pair.1 ≠ other.1 := by
  unfold visitsOf
  split
  next isDirectory =>
    split
    · refine List.pairwise_cons.mpr ⟨fun pair visited same => ?_, ?_⟩
      · obtain ⟨inner, isInner, rfl⟩ := List.mem_map.mp visited
        cases inner with
        | mk below entry =>
          obtain rfl : [] = below := List.tail_eq_of_cons_eq same
          exact nil_notMem_visits isInner
      · refine List.pairwise_map.mpr ((inside isDirectory).imp fun different same => ?_)
        exact different (List.tail_eq_of_cons_eq same)
    · exact List.Pairwise.nil
  next => exact List.pairwise_singleton _ _

/-- The place at which a walk lists an entry that it visits, if it does. -/
def listed? (rule : WalkRule) (pair : Place × FileEntry) : Option Place :=
  match pair.2 with
  | .file _ => if pair.1.getLast?.any rule.lists then some pair.1 else none
  | _ => none

theorem filesBelow_eq (tree : FileTree) (rule : WalkRule) (directory : Place) :
    tree.filesBelow rule directory = (tree.visits rule directory).filterMap (listed? rule) :=
  rfl

theorem listed?_eq_some_iff {rule : WalkRule} {pair : Place × FileEntry} {below : Place} :
    listed? rule pair = some below ↔
      pair.1 = below ∧ below.getLast?.any rule.lists = true ∧ ∃ content, pair.2 = .file content := by
  obtain ⟨place, entry⟩ := pair
  cases entry with
  | file content =>
    simp only [listed?, Option.ite_none_right_eq_some, Option.some.injEq]
    grind
  | directory | link | device => simp [listed?]

/-- The place of a directory that a walk goes into. -/
def entered? (pair : Place × FileEntry) : Option Place :=
  match pair.2 with
  | .directory => some pair.1
  | _ => none

theorem directoriesBelow_eq (tree : FileTree) (rule : WalkRule) (directory : Place) :
    tree.directoriesBelow rule directory = (tree.visits rule directory).filterMap entered? :=
  rfl

theorem entered?_eq_some_iff {pair : Place × FileEntry} {below : Place} :
    entered? pair = some below ↔ pair.1 = below ∧ pair.2 = .directory := by
  obtain ⟨place, entry⟩ := pair
  cases entry with
  | directory => simp [entered?]
  | file | link | device => simp [entered?]

/-- The names before the last one are those of directories that the walk goes into. -/
def Opens (tree : FileTree) (rule : WalkRule) (directory below : Place) : Prop :=
  ∀ above name behind, below = above ++ name :: behind → behind ≠ [] →
    tree.isDirectoryAt (directory ++ above ++ [name]) = true ∧ rule.enters name = true

theorem opens_singleton (tree : FileTree) (rule : WalkRule) (directory : Place) (name : String) :
    tree.Opens rule directory [name] := by
  intro above other behind split isBehind
  obtain ⟨rfl, same⟩ | ⟨above, rfl, same⟩ := List.cons_eq_append_iff.mp split
  · cases same
    exact absurd rfl isBehind
  · simp at same

theorem opens_cons_iff {tree : FileTree} {rule : WalkRule} {directory : Place}
    {name next : String} {rest : Place} :
    tree.Opens rule directory (name :: next :: rest) ↔
      tree.isDirectoryAt (directory ++ [name]) = true ∧ rule.enters name = true ∧
        tree.Opens rule (directory ++ [name]) (next :: rest) := by
  constructor
  · intro opens
    obtain ⟨isDirectory, entered⟩ := opens [] name (next :: rest) rfl (List.cons_ne_nil _ _)
    rw [List.append_nil] at isDirectory
    refine ⟨isDirectory, entered, fun above other behind split isBehind => ?_⟩
    have further := opens (name :: above) other behind (by rw [split, List.cons_append]) isBehind
    rw [← List.append_cons]
    exact further
  · rintro ⟨isDirectory, entered, opens⟩ above other behind split isBehind
    obtain ⟨rfl, same⟩ | ⟨above, rfl, same⟩ := List.cons_eq_append_iff.mp split
    · cases same
      rw [List.append_nil]
      exact ⟨isDirectory, entered⟩
    · have further := opens above other behind same isBehind
      rw [← List.append_cons] at further
      exact further

namespace Proper

variable {tree : FileTree} (proper : tree.Proper)

include proper

/-- In a proper tree the entries are what stands at the places below the root. -/
theorem entry?_eq_some_iff {place : Place} (notRoot : place ≠ []) {entry : FileEntry} :
    tree.entry? place = some entry ↔ (place, entry) ∈ tree.entries := by
  rw [entry?_of_ne_nil tree notRoot]
  constructor
  · intro found
    obtain ⟨pair, isPair, rfl⟩ := Option.map_eq_some_iff.mp found
    have atPlace : pair.1 = place := by simpa using List.find?_some isPair
    rw [← atPlace]
    exact List.mem_of_find?_eq_some isPair
  · intro member
    have present : (tree.entries.find? (·.1 = place)).isSome = true :=
      List.find?_isSome.mpr ⟨_, member, by simp⟩
    obtain ⟨pair, isPair⟩ := Option.isSome_iff_exists.mp present
    have atPlace : pair.1 = place := by simpa using List.find?_some isPair
    have same : pair = (place, entry) :=
      List.inj_on_of_nodup_map proper.distinct (List.mem_of_find?_eq_some isPair) member atPlace
    rw [isPair, same, Option.map_some]

/-- What stands in a directory of a proper tree. -/
theorem mem_children_iff {directory : Place} {name : String} {entry : FileEntry} :
    (name, entry) ∈ tree.children directory ↔
      tree.entry? (directory ++ [name]) = some entry := by
  rw [FileTree.mem_children_iff, proper.entry?_eq_some_iff (List.append_ne_nil_of_right_ne_nil _
    (List.cons_ne_nil name []))]

/-- **A walk visits an entry if it goes into every directory that leads to it**, and into the entry
itself if that is a directory. -/
theorem mem_visits_iff {rule : WalkRule} {directory below : Place} {entry : FileEntry} :
    (below, entry) ∈ tree.visits rule directory ↔ below ≠ [] ∧
      tree.Opens rule directory below ∧ tree.entry? (directory ++ below) = some entry ∧
      (entry = .directory → below.getLast?.any rule.enters = true) := by
  induction below generalizing directory with
  | nil => simp only [nil_notMem_visits, ne_eq, not_true_eq_false, false_and]
  | cons name rest step =>
    rw [cons_mem_visits_iff, step, proper.mem_children_iff, proper.mem_children_iff,
      ← isDirectoryAt_iff]
    cases rest with
    | nil => simp [opens_singleton]
    | cons next rest => simp [opens_cons_iff, and_assoc]

/-- The directories that a walk comes to. -/
theorem mem_directoriesBelow_iff {rule : WalkRule} {directory below : Place} :
    below ∈ tree.directoriesBelow rule directory ↔ below ≠ [] ∧ tree.Opens rule directory below ∧
      tree.isDirectoryAt (directory ++ below) = true ∧ below.getLast?.any rule.enters = true := by
  rw [directoriesBelow_eq, List.mem_filterMap, isDirectoryAt_iff]
  constructor
  · rintro ⟨⟨place, entry⟩, visited, entered⟩
    obtain ⟨rfl, rfl⟩ := entered?_eq_some_iff.mp entered
    obtain ⟨notEmpty, opens, isDirectory, ruled⟩ := proper.mem_visits_iff.mp visited
    exact ⟨notEmpty, opens, isDirectory, ruled rfl⟩
  · rintro ⟨notEmpty, opens, isDirectory, ruled⟩
    exact ⟨_, proper.mem_visits_iff.mpr ⟨notEmpty, opens, isDirectory, fun _ => ruled⟩,
      entered?_eq_some_iff.mpr ⟨rfl, rfl⟩⟩

/-- **A walk lists the files below a directory that its rule lists.** -/
theorem mem_filesBelow_iff {rule : WalkRule} {directory below : Place} :
    below ∈ tree.filesBelow rule directory ↔ below ≠ [] ∧ tree.Opens rule directory below ∧
      below.getLast?.any rule.lists = true ∧
      ∃ content, tree.entry? (directory ++ below) = some (.file content) := by
  rw [filesBelow_eq, List.mem_filterMap]
  constructor
  · rintro ⟨⟨place, entry⟩, visited, listed⟩
    obtain ⟨rfl, ruled, content, rfl⟩ := listed?_eq_some_iff.mp listed
    obtain ⟨notEmpty, opens, isFile, -⟩ := proper.mem_visits_iff.mp visited
    exact ⟨notEmpty, opens, ruled, content, isFile⟩
  · rintro ⟨notEmpty, opens, ruled, content, isFile⟩
    exact ⟨_, proper.mem_visits_iff.mpr ⟨notEmpty, opens, isFile, fun same => nomatch same⟩,
      listed?_eq_some_iff.mpr ⟨rfl, ruled, content, rfl⟩⟩

/-- The entries of a directory have different names. -/
theorem children_distinct (directory : Place) :
    (tree.children directory).Pairwise fun child other => child.1 ≠ other.1 := by
  have distinct : tree.entries.Pairwise fun first second => first.1 ≠ second.1 :=
    List.pairwise_map.mp proper.distinct
  refine distinct.filterMap _ fun first second different child isChild other isOther same => ?_
  split at isChild
  next name isBelow =>
    split at isOther
    next otherName otherIsBelow =>
      cases isChild
      cases isOther
      have sameName : name = otherName := same
      refine different ?_
      rw [(below?_eq_some_iff.mp isBelow).1, (below?_eq_some_iff.mp otherIsBelow).1, sameName]
    next => cases isOther
  next => cases isChild

/-- **A walk visits each place once.** -/
theorem visits_distinct (rule : WalkRule) (directory : Place) :
    (tree.visits rule directory).Pairwise fun pair other => pair.1 ≠ other.1 := by
  induction directory using visits.induct tree with
  | case1 directory step =>
    rw [visits_eq, List.pairwise_flatMap]
    constructor
    · rintro ⟨name, entry⟩ isChild
      exact visitsOf_distinct fun isDirectory => step name (isDirectory ▸ isChild)
    · refine (proper.children_distinct directory).imp ?_
      intro child other different pair visited another otherVisited same
      have sameHead := (head?_of_mem_visitsOf visited).symm.trans
        ((congrArg List.head? same).trans (head?_of_mem_visitsOf otherVisited))
      exact different (Option.some.inj sameHead)

/-- What is picked from the visited entries by their places is picked once. -/
theorem nodup_filterMap_visits {rule : WalkRule} {directory : Place}
    {pick : Place × FileEntry → Option Place}
    (byPlace : ∀ pair place, pick pair = some place → pair.1 = place) :
    ((tree.visits rule directory).filterMap pick).Nodup := by
  refine (proper.visits_distinct rule directory).filterMap _
    fun first second different below found other otherFound same => ?_
  exact different (by rw [byPlace _ _ found, byPlace _ _ otherFound, same])

/-- A walk lists each file once. -/
theorem nodup_filesBelow (rule : WalkRule) (directory : Place) :
    (tree.filesBelow rule directory).Nodup :=
  proper.nodup_filterMap_visits fun _ _ found => (listed?_eq_some_iff.mp found).1

/-- A walk comes to each directory once. -/
theorem nodup_directoriesBelow (rule : WalkRule) (directory : Place) :
    (tree.directoriesBelow rule directory).Nodup :=
  proper.nodup_filterMap_visits fun _ _ found => (entered?_eq_some_iff.mp found).1

/-- The names that lead to an entry are names. -/
theorem names_of_entry? {directory below : Place} {entry : FileEntry} (notEmpty : below ≠ [])
    (isEntry : tree.entry? (directory ++ below) = some entry) :
    ∀ name ∈ below, Path.IsName name := by
  rw [proper.entry?_eq_some_iff (List.append_ne_nil_of_right_ne_nil _ notEmpty)] at isEntry
  intro name isName
  exact proper.names _ (List.mem_map_of_mem isEntry) name (List.mem_append_right directory isName)

theorem names_of_mem_filesBelow {rule : WalkRule} {directory below : Place}
    (listed : below ∈ tree.filesBelow rule directory) : ∀ name ∈ below, Path.IsName name := by
  obtain ⟨notEmpty, -, -, content, isFile⟩ := proper.mem_filesBelow_iff.mp listed
  exact proper.names_of_entry? notEmpty isFile

theorem names_of_mem_directoriesBelow {rule : WalkRule} {directory below : Place}
    (entered : below ∈ tree.directoriesBelow rule directory) :
    ∀ name ∈ below, Path.IsName name := by
  obtain ⟨notEmpty, -, isDirectory, -⟩ := proper.mem_directoriesBelow_iff.mp entered
  exact proper.names_of_entry? notEmpty ((tree.isDirectoryAt_iff _).mp isDirectory)

end Proper

/-- **Different names below a path make different paths**, also if equal components count as
equal. -/
theorem pathBelow_inj {path : String} (notEmpty : path ≠ "") {below other : Place}
    (isBelow : below ≠ []) (otherIsBelow : other ≠ []) (names : ∀ name ∈ below, Path.IsName name)
    (otherNames : ∀ name ∈ other, Path.IsName name)
    (same : Path.components (pathBelow path below) = Path.components (pathBelow path other)) :
    below = other := by
  rw [components_pathBelow notEmpty isBelow names,
    components_pathBelow notEmpty otherIsBelow otherNames] at same
  have sameNames := List.append_cancel_left same
  refine List.map_injective_iff.mpr ?_ sameNames
  intro name another equal
  exact Component.name.inj equal

end FileTree

end TagAudit
