/-
**Paths that are too long.**

The operating system looks at a path only up to a length. A place in a file tree has no such limit:
it can be reached by shorter steps, but not by one path. So a walk may come to a directory that it
cannot open, although nothing is wrong with the directory.

* `FileTree.accept_eq_ok_iff`: a path that can be looked at;
* `FileTree.Storable`: trees with names that can be stored;
* `FileTree.Storable.tooLong_of_stopsWalk`: nothing but the length of a path stops a walk there;
* `FileTree.locate_dotSlashes`: the working directory under a path of any length up to the limit.
-/

import TagAudit.Proofs.ProperTrees

namespace TagAudit

namespace FileTree

/-! ### What can be looked at -/

/-- A path with some text and without null characters can be looked at unless it is too long. -/
theorem accept_eq_ite {path : String} (noNull : '\x00' ∉ path.toList) (notEmpty : path ≠ "") :
    accept path = if pathLimit < path.utf8ByteSize then .error .nameTooLong else .ok () := by
  simp [accept, noNull, notEmpty]

theorem accept_eq_ok_iff {path : String} :
    accept path = .ok () ↔
      '\x00' ∉ path.toList ∧ path ≠ "" ∧ path.utf8ByteSize ≤ pathLimit := by
  by_cases null : '\x00' ∈ path.toList
  · simp [accept, null]
  · by_cases empty : path = ""
    · simp [accept, empty]
    · rw [accept_eq_ite null empty]
      by_cases long : pathLimit < path.utf8ByteSize
      · simp [long]
      · simp [null, empty, long, Nat.not_lt.mp long]

/-- A null character in the path of what stands below a path is one of the path or of a name. -/
theorem null_notMem_pathBelow {path : String} {below : Place} (noNull : '\x00' ∉ path.toList)
    (noNullBelow : ∀ name ∈ below, '\x00' ∉ name.toList) :
    '\x00' ∉ (pathBelow path below).toList := by
  have noNullInNames : '\x00' ∉ (String.intercalate "/" below).toList := by
    induction below with
    | nil => simp
    | cons name rest step =>
      obtain ⟨noNullHere, noNullBehind⟩ := List.forall_mem_cons.mp noNullBelow
      cases rest with
      | nil => simpa using noNullHere
      | cons next rest =>
        rw [String.intercalate_cons_cons, String.toList_append, String.toList_append]
        simp only [List.mem_append, not_or]
        exact ⟨⟨noNullHere, by decide⟩, step noNullBehind⟩
  unfold pathBelow Path.join
  split
  · exact noNullInNames
  · split
    · rw [String.toList_append, List.mem_append]
      exact not_or.mpr ⟨noNull, noNullInNames⟩
    · rw [String.toList_append, String.toList_append, List.mem_append, List.mem_append]
      exact not_or.mpr ⟨not_or.mpr ⟨noNull, by decide⟩, noNullInNames⟩

theorem pathBelow_ne_empty {path : String} (notEmpty : path ≠ "") {below : Place}
    (isBelow : below ≠ []) (names : ∀ name ∈ below, Path.IsName name) :
    pathBelow path below ≠ "" := by
  intro empty
  have components := components_pathBelow notEmpty isBelow names
  rw [empty] at components
  exact isBelow (List.map_eq_nil_iff.mp (List.append_eq_nil_iff.mp components.symm).2)

/-! ### Names that can be stored -/

/-- A proper tree with names that can be stored: none is too long, and none has a null character. -/
structure Storable (tree : FileTree) : Prop extends tree.Proper where
  short : ∀ place ∈ tree.entries.map Prod.fst, ∀ name ∈ place, name.utf8ByteSize ≤ nameLimit
  noNull : ∀ place ∈ tree.entries.map Prod.fst, ∀ name ∈ place, '\x00' ∉ name.toList

namespace Storable

variable {tree : FileTree} (storable : tree.Storable) {directory below : Place}
  {entry : FileEntry} (isBelow : below ≠ [])
  (isEntry : tree.entry? (directory ++ below) = some entry)

include storable

section Names

include isBelow isEntry

theorem mem_places : directory ++ below ∈ tree.entries.map Prod.fst :=
  List.mem_map_of_mem ((storable.entry?_eq_some_iff
    (List.append_ne_nil_of_right_ne_nil _ isBelow)).mp isEntry)

theorem noNull_of_entry? : ∀ name ∈ below, '\x00' ∉ name.toList := fun name isName =>
  storable.noNull _ (storable.mem_places isBelow isEntry) name (List.mem_append_right _ isName)

theorem short_of_entry? : ∀ name ∈ below, name.utf8ByteSize ≤ nameLimit := fun name isName =>
  storable.short _ (storable.mem_places isBelow isEntry) name (List.mem_append_right _ isName)

/-- **The path of what stands below a path can be looked at** unless it is too long. -/
theorem accept_pathBelow {root : String} {place : Place} (located : tree.locate root = .ok place) :
    accept (pathBelow root below) =
      if pathLimit < (pathBelow root below).utf8ByteSize then .error .nameTooLong else .ok () := by
  obtain ⟨noNull, notEmpty, -⟩ := accept_eq_ok_iff.mp (locate_eq_ok_iff.mp located).1
  exact accept_eq_ite (null_notMem_pathBelow noNull (storable.noNull_of_entry? isBelow isEntry))
    (pathBelow_ne_empty notEmpty isBelow (storable.names_of_entry? isBelow isEntry))

end Names

/-- **Nothing but the length of a path stops a walk.** -/
theorem tooLong_of_stopsWalk {rule : WalkRule} {root : String} {fault : ScanFault}
    (stops : tree.StopsWalk rule root fault) :
    pathLimit < fault.path.utf8ByteSize ∧ fault.cause = .nameTooLong := by
  obtain ⟨-, ⟨directory, below, located, entered, isPath⟩, refused⟩ := stops
  obtain ⟨isBelow, -, isDirectory, -⟩ := storable.mem_directoriesBelow_iff.mp entered
  rw [isDirectoryAt_iff] at isDirectory
  have accepted := storable.accept_pathBelow isBelow isDirectory located
  rw [← isPath, refused] at accepted
  split at accepted
  next long => exact ⟨long, Except.error.inj accepted⟩
  next => cases accepted

end Storable

/-! ### The working directory, spelled at length -/

/-- A dot with slashes behind it. -/
def dotSlashes : Nat → String
  | 0 => "."
  | slashes + 1 => dotSlashes slashes ++ "/"

theorem utf8ByteSize_dotSlashes (slashes : Nat) :
    (dotSlashes slashes).utf8ByteSize = slashes + 1 := by
  induction slashes with
  | zero => rfl
  | succ slashes step =>
    rw [dotSlashes, String.utf8ByteSize_append, step]
    rfl

theorem dotSlashes_ne_empty (slashes : Nat) : dotSlashes slashes ≠ "" := by
  intro empty
  have size := utf8ByteSize_dotSlashes slashes
  rw [empty] at size
  cases size

theorem accept_dotSlashes {slashes : Nat} (short : slashes < pathLimit) :
    accept (dotSlashes slashes) = .ok () := by
  refine accept_eq_ok_iff.mpr ⟨?_, dotSlashes_ne_empty slashes, ?_⟩
  · induction slashes with
    | zero => decide
    | succ slashes step =>
      rw [dotSlashes, String.toList_append, List.mem_append]
      exact not_or.mpr ⟨step (Nat.lt_of_succ_lt short), by decide⟩
  · rw [utf8ByteSize_dotSlashes]
    exact short

/-- The steps of such a path all stay. -/
theorem mem_steps_dotSlashes {slashes : Nat} {step : String}
    (isStep : step ∈ Path.steps (dotSlashes slashes)) : step = "" ∨ step = "." := by
  induction slashes with
  | zero =>
    have steps : Path.steps (dotSlashes 0) = ["."] := by decide
    rw [steps, List.mem_singleton] at isStep
    exact .inr isStep
  | succ slashes before =>
    have steps : Path.steps (dotSlashes (slashes + 1)) =
        Path.steps (dotSlashes slashes) ++ [""] := by
      have split := Path.steps_slash (dotSlashes slashes) ""
      rw [String.append_empty] at split
      exact split
    rw [steps, List.mem_append, List.mem_singleton] at isStep
    exact isStep.elim before .inl

/-- Steps that stay lead to the directory in which they start. -/
theorem follow_stays {tree : FileTree} {place : Place}
    (inDirectory : tree.isDirectoryAt place = true) (links : Nat) {steps : List String}
    (stay : ∀ step ∈ steps, step = "" ∨ step = ".") :
    tree.follow true links place steps = .ok (.entry place) := by
  induction steps with
  | nil => rw [FileTree.follow]
  | cons step rest induct =>
    obtain ⟨stays, others⟩ := List.forall_mem_cons.mp stay
    rw [follow_here inDirectory (by simpa using stays), induct others]

theorem isAbsolute_dotSlashes (slashes : Nat) : Path.isAbsolute (dotSlashes slashes) = false := by
  induction slashes with
  | zero => decide
  | succ slashes step => rw [dotSlashes, Path.isAbsolute_append (dotSlashes_ne_empty slashes), step]

/-- **A dot with slashes behind it leads to the working directory**, as long as there are not too
many slashes. -/
theorem locate_dotSlashes {tree : FileTree}
    (inDirectory : tree.isDirectoryAt tree.workingDirectory = true) {slashes : Nat}
    (short : slashes < pathLimit) :
    tree.locate (dotSlashes slashes) = .ok tree.workingDirectory := by
  refine locate_eq_ok_iff.mpr ⟨accept_dotSlashes short, ?_⟩
  rw [startOf, isAbsolute_dotSlashes]
  exact follow_stays inDirectory _ fun step isStep => mem_steps_dotSlashes isStep

/-- A name behind it needs no slash of its own. -/
theorem pathBelow_dotSlashes (slashes : Nat) (name : String) :
    pathBelow (dotSlashes (slashes + 1)) [name] = dotSlashes (slashes + 1) ++ name := by
  have endsWithSlash : (dotSlashes (slashes + 1)).toList.getLast? = some '/' := by
    rw [dotSlashes, String.toList_append]
    exact List.getLast?_concat
  rw [pathBelow, String.intercalate_singleton, Path.join, if_neg (by simp [dotSlashes_ne_empty]),
    if_pos (by simp [endsWithSlash])]

end FileTree

end TagAudit
