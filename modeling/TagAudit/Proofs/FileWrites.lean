/-
**Writing a file.**

A write through a path changes the entry at one place, the place to which the path leads with its
links followed, and reading through the same path afterwards gives what was written. If a special
file stands there, that is handed what is written, and nothing changes.

* `FileTree.entry?_setFile_self`, `FileTree.entry?_setFile_of_ne`: what a set file changes;
* `FileTree.LooksFor`: a step of a path by a name, with one lemma for each thing that it may find;
* `FileTree.follow_of_keepsShape`: a path leads to the same place in a tree that keeps the shape of
  what was there, even if the place was free before;
* `FileTree.write_eq_ok_iff`: when a write goes through;
* `FileTree.written_of_write`, `FileTree.leadsToDevice_of_write`: what a write has done.
-/

import TagAudit.Files.Tree
import TagAudit.Proofs.Failing

namespace TagAudit

/-- Only what is full looks at what is written. -/
theorem Device.refusal?_eq_none {device : Device} {content : ByteArray}
    (takes : device.refusal? content = none) (notFull : device ≠ .full) (other : ByteArray) :
    device.refusal? other = none := by
  cases device with
  | full => exact absurd rfl notFull
  | closed cause => cases takes
  | null | output | outside => rfl

namespace FileTree

/-- Every entry of `before` is in `after`, though a file may hold something else. -/
def KeepsShape (before after : FileTree) : Prop :=
  ∀ place entry, before.entry? place = some entry → after.entry? place = some entry ∨
    ∃ old new, entry = .file old ∧ after.entry? place = some (.file new)

/-- `after` is `before` with `content` written through `path`: the path led to a file or to a free
name, a file with the content stands there now, everything else is as it was, and the path reads as
the content. -/
structure Written (before : FileTree) (path : String) (content : ByteArray) (after : FileTree) :
    Prop where
  atPlace : ∃ place,
    ((before.land true path = .ok (.entry place) ∧
        ∃ old, before.entry? place = some (.file old)) ∨
      (before.land true path = .ok (.vacant place) ∧ before.entry? place = none)) ∧
    after.entry? place = some (.file content) ∧
    ∀ other, other ≠ place → after.entry? other = before.entry? other
  workingDirectory : after.workingDirectory = before.workingDirectory
  reads : after.read path = .ok content

/-- A path leads to a place at which a special file stands. -/
structure LeadsToDevice (tree : FileTree) (path : String) (place : Place) (device : Device) : Prop
    where
  located : tree.locate path = .ok place
  isDevice : tree.entry? place = some (.device device)

/-! ### Setting a file -/

theorem entry?_of_ne_nil (tree : FileTree) {place : Place} (notRoot : place ≠ []) :
    tree.entry? place = (tree.entries.find? (·.1 = place)).map (·.2) := by
  unfold entry?
  split
  · exact absurd rfl notRoot
  · rfl

/-- The entry of a place, if it is the place of the set file, made that file. -/
def refile (place : Place) (content : ByteArray) (pair : Place × FileEntry) : Place × FileEntry :=
  if pair.1 = place then (pair.1, .file content) else pair

theorem refile_fst (place : Place) (content : ByteArray) (pair : Place × FileEntry) :
    (refile place content pair).1 = pair.1 := by
  unfold refile
  split <;> rfl

theorem find?_refile (place other : Place) (content : ByteArray)
    (entries : List (Place × FileEntry)) :
    (entries.map (refile place content)).find? (·.1 = other) =
      (entries.find? (·.1 = other)).map (refile place content) := by
  rw [List.find?_map]
  congr 2
  funext pair
  rw [Function.comp_apply, refile_fst]

theorem setFile_eq (tree : FileTree) (place : Place) (content : ByteArray) :
    tree.setFile place content =
      if tree.entries.any (·.1 = place) then
        { tree with entries := tree.entries.map (refile place content) }
      else { tree with entries := tree.entries ++ [(place, .file content)] } := rfl

/-- The set file stands at its place. -/
theorem entry?_setFile_self (tree : FileTree) {place : Place} (notRoot : place ≠ [])
    (content : ByteArray) :
    FileTree.entry? (tree.setFile place content) place = some (.file content) := by
  rw [entry?_of_ne_nil _ notRoot, setFile_eq]
  split
  next present =>
    obtain ⟨pair, isPair⟩ := Option.isSome_iff_exists.mp (List.find?_isSome.mpr
      (List.any_eq_true.mp present))
    have atPlace : pair.1 = place := by simpa using List.find?_some isPair
    rw [find?_refile, isPair, Option.map_some, Option.map_some, refile, if_pos atPlace]
  next absent =>
    have free : tree.entries.find? (·.1 = place) = none :=
      List.find?_eq_none.mpr fun pair member isPair =>
        absent (List.any_eq_true.mpr ⟨pair, member, isPair⟩)
    rw [List.find?_append, free]
    simp

/-- Every other place is as it was. -/
theorem entry?_setFile_of_ne (tree : FileTree) {place other : Place} (different : other ≠ place)
    (content : ByteArray) :
    FileTree.entry? (tree.setFile place content) other = tree.entry? other := by
  cases other with
  | nil => rfl
  | cons name rest =>
    rw [entry?_of_ne_nil _ (List.cons_ne_nil _ _), entry?_of_ne_nil _ (List.cons_ne_nil _ _),
      setFile_eq]
    split
    next present =>
      rw [find?_refile]
      cases found : tree.entries.find? (·.1 = name :: rest) with
      | none => rfl
      | some pair =>
        have atOther : pair.1 = name :: rest := by simpa using List.find?_some found
        rw [Option.map_some, refile, if_neg (by rw [atOther]; exact different)]
    next absent =>
      rw [List.find?_append, List.find?_singleton, if_neg (by simpa using different.symm),
        Option.or_none]

/-! ### Following a path -/

theorem isDirectoryAt_iff (tree : FileTree) (place : Place) :
    tree.isDirectoryAt place = true ↔ tree.entry? place = some .directory := by
  unfold isDirectoryAt
  split <;> simp_all

theorem KeepsShape.isDirectoryAt {before after : FileTree} (keeps : before.KeepsShape after)
    {place : Place} (isDirectory : before.isDirectoryAt place = true) :
    after.isDirectoryAt place = true := by
  rw [isDirectoryAt_iff] at isDirectory ⊢
  obtain kept | ⟨old, new, isFile, _⟩ := keeps place .directory isDirectory
  · exact kept
  · cases isFile

section Steps

variable {tree : FileTree} {followLast : Bool} {links : Nat} {place : Place} {name : String}
  {rest : List String}

theorem follow_outside (outside : (!tree.isDirectoryAt place) = true) :
    tree.follow followLast links place (name :: rest) = .error .notADirectory := by
  rw [FileTree.follow, if_pos outside]

/-- An empty step and a dot stay in the directory. -/
theorem follow_here (inDirectory : tree.isDirectoryAt place = true)
    (stays : (decide (name = "") || decide (name = ".")) = true) :
    tree.follow followLast links place (name :: rest) =
      tree.follow followLast links place rest := by
  rw [FileTree.follow, inDirectory, if_neg (by simp), if_pos stays]

theorem follow_parent (inDirectory : tree.isDirectoryAt place = true) :
    tree.follow followLast links place (".." :: rest) =
      tree.follow followLast links place.dropLast rest := by
  rw [FileTree.follow, inDirectory, if_neg (by simp), if_neg (by decide), if_pos rfl]

theorem follow_long (inDirectory : tree.isDirectoryAt place = true)
    (notHere : ¬ (decide (name = "") || decide (name = ".")) = true) (notParent : name ≠ "..")
    (long : nameLimit < name.utf8ByteSize) :
    tree.follow followLast links place (name :: rest) = .error .nameTooLong := by
  rw [FileTree.follow, inDirectory, if_neg (by simp), if_neg notHere, if_neg notParent,
    if_pos long]

/-- A step looks for what stands at a name: it starts in a directory, and the name is one that can
stand there. -/
structure LooksFor (tree : FileTree) (place : Place) (name : String) : Prop where
  inDirectory : tree.isDirectoryAt place = true
  notHere : ¬ (decide (name = "") || decide (name = ".")) = true
  notParent : name ≠ ".."
  short : ¬ nameLimit < name.utf8ByteSize

namespace LooksFor

variable (looks : tree.LooksFor place name)

include looks

theorem follow_name :
    tree.follow followLast links place (name :: rest) =
      match tree.entry? (place ++ [name]) with
      | none => if rest.isEmpty then .ok (.vacant (place ++ [name])) else .error .noSuchFile
      | some (.link target) =>
        if rest.isEmpty && !followLast then .ok (.entry (place ++ [name]))
        else
          match links with
          | 0 => .error .tooManyLinks
          | left + 1 =>
            tree.follow followLast left (startOf target place) (Path.steps target ++ rest)
      | some _ => tree.follow followLast links (place ++ [name]) rest := by
  rw [FileTree.follow, looks.inDirectory, if_neg (by simp), if_neg looks.notHere,
    if_neg looks.notParent]
  exact if_neg looks.short

/-- Only the last step can look for a name that is free. -/
theorem follow_free (free : tree.entry? (place ++ [name]) = none) :
    tree.follow followLast links place (name :: rest) =
      if rest.isEmpty then .ok (.vacant (place ++ [name])) else .error .noSuchFile := by
  rw [looks.follow_name, free]

/-- A path goes on from whatever is no link. -/
theorem follow_entry {entry : FileEntry} (isEntry : tree.entry? (place ++ [name]) = some entry)
    (noLink : ∀ target, entry ≠ .link target) :
    tree.follow followLast links place (name :: rest) =
      tree.follow followLast links (place ++ [name]) rest := by
  rw [looks.follow_name, isEntry]
  cases entry with
  | link target => exact absurd rfl (noLink target)
  | file | directory | device => rfl

variable {target : String} (isLink : tree.entry? (place ++ [name]) = some (.link target))

include isLink

/-- A link in last position stands for itself where the last one is not to be followed. -/
theorem follow_link_last (isLast : (rest.isEmpty && !followLast) = true) :
    tree.follow followLast links place (name :: rest) = .ok (.entry (place ++ [name])) := by
  rw [looks.follow_name, isLink]
  exact if_pos isLast

theorem follow_link_spent (notLast : ¬ (rest.isEmpty && !followLast) = true) :
    tree.follow followLast 0 place (name :: rest) = .error .tooManyLinks := by
  rw [looks.follow_name, isLink]
  exact if_neg notLast

/-- A link takes its target in front of the steps that are left. -/
theorem follow_link (notLast : ¬ (rest.isEmpty && !followLast) = true) :
    tree.follow followLast (links + 1) place (name :: rest) =
      tree.follow followLast links (startOf target place) (Path.steps target ++ rest) := by
  rw [looks.follow_name, isLink]
  exact if_neg notLast

end LooksFor

end Steps

theorem KeepsShape.looksFor {before after : FileTree} (keeps : before.KeepsShape after)
    {place : Place} {name : String} (looks : before.LooksFor place name) :
    after.LooksFor place name :=
  { looks with inDirectory := keeps.isDirectoryAt looks.inDirectory }

/-- A dot leads to the working directory. -/
theorem locate_dot {tree : FileTree}
    (isDirectory : tree.isDirectoryAt tree.workingDirectory = true) :
    tree.locate "." = .ok tree.workingDirectory := by
  have steps : Path.steps "." = ["."] := by decide
  have relative : Path.isAbsolute "." = false := by decide
  have landed : tree.land true "." = .ok (.entry tree.workingDirectory) := by
    refine bind_eq_ok_iff.mpr ⟨(), rfl, ?_⟩
    rw [steps, startOf, relative]
    simp [FileTree.follow, isDirectory]
  rw [locate, landed]

/-- A path that leads to a free name leads to a name at which nothing stands. -/
theorem follow_vacant {tree : FileTree} {followLast : Bool} {links : Nat} {place target : Place}
    {steps : List String}
    (found : tree.follow followLast links place steps = .ok (.vacant target)) :
    target ≠ [] ∧ tree.entry? target = none := by
  fun_induction FileTree.follow tree followLast links place steps with
  | case1 | case2 | case5 | case7 | case8 | case9 => simp at found
  | case3 _ _ _ _ _ _ step => exact step found
  | case4 _ _ _ _ _ step => exact step found
  | case6 links place step rest _ _ _ _ next free _ =>
    obtain rfl : next = target := by simpa using found
    exact ⟨by simp [next], free⟩
  | case10 _ _ _ _ _ _ _ _ _ _ _ _ step => exact step found
  | case11 _ _ _ _ _ _ _ _ _ _ _ _ step => exact step found

/-- **A path leads to the same place in a tree that keeps the shape of what was there**, be the
place the one of an entry or a free name at which now a file stands. -/
theorem follow_of_keepsShape {before after : FileTree} (keeps : before.KeepsShape after)
    {followLast : Bool} {links : Nat} {place target : Place} {steps : List String}
    {content : ByteArray} (isFile : after.entry? target = some (.file content)) {landing : Landing}
    (found : before.follow followLast links place steps = .ok landing)
    (leads : landing = .entry target ∨ landing = .vacant target) :
    after.follow followLast links place steps = .ok (.entry target) := by
  fun_induction FileTree.follow before followLast links place steps with
  | case1 links place =>
    obtain rfl := Except.ok.inj found
    obtain same | same := leads
    · rw [FileTree.follow, same]
    · cases same
  | case2 | case5 | case7 | case9 => simp at found
  | case3 links place name rest inDirectory isHere step =>
    rw [follow_here (keeps.isDirectoryAt (by simpa using inDirectory)) isHere]
    exact step found
  | case4 links place rest inDirectory notHere step =>
    rw [follow_parent (keeps.isDirectoryAt (by simpa using inDirectory))]
    exact step found
  | case6 links place name rest inDirectory notHere notParent short next free isLast =>
    have looks := keeps.looksFor ⟨by simpa using inDirectory, notHere, notParent, short⟩
    -- The free name at which the path ended is the place of the file.
    obtain rfl := Except.ok.inj found
    obtain same | same := leads
    · cases same
    · obtain rfl : next = target := by simpa using same
      rw [looks.follow_entry isFile (by simp), List.isEmpty_iff.mp isLast, FileTree.follow]
  | case8 links place name rest inDirectory notHere notParent short next goal isLink isLast =>
    obtain rfl := Except.ok.inj found
    obtain same | same := leads
    · obtain rfl : next = target := by simpa using same
      obtain kept | ⟨_, _, noLink, _⟩ := keeps next _ isLink
      · rw [kept] at isFile
        cases isFile
      · cases noLink
    · cases same
  | case10 place name rest inDirectory notHere notParent short next goal isLink notLast left step =>
    have looks := keeps.looksFor ⟨by simpa using inDirectory, notHere, notParent, short⟩
    obtain kept | ⟨_, _, noLink, _⟩ := keeps next _ isLink
    · rw [looks.follow_link kept notLast]
      exact step found
    · cases noLink
  | case11 links place name rest inDirectory notHere notParent short next entry noLink isEntry
      step =>
    have looks := keeps.looksFor ⟨by simpa using inDirectory, notHere, notParent, short⟩
    obtain kept | ⟨_, new, _, kept⟩ := keeps next _ isEntry
    · rw [looks.follow_entry kept noLink]
      exact step found
    · rw [looks.follow_entry kept (by simp)]
      exact step found

/-! ### Writing through a path -/

/-- What stands at the place to which a path leads. -/
theorem lookup_of_located {tree : FileTree} {path : String} {place : Place}
    (located : tree.locate path = .ok place) :
    tree.lookup path =
      match tree.entry? place with
      | some entry => .ok entry
      | none => .error .noSuchFile := by
  unfold lookup
  rw [located]
  rfl

/-- What stands at a place can be read through a path that leads to it. -/
theorem read_of_land {tree : FileTree} {path : String} {place : Place} {content : ByteArray}
    (found : tree.land true path = .ok (.entry place))
    (isFile : tree.entry? place = some (.file content)) : tree.read path = .ok content := by
  have located : tree.locate path = .ok place := by rw [locate, found]
  have lookedUp : tree.lookup path = .ok (.file content) :=
    bind_eq_ok_iff.mpr ⟨place, located, by rw [isFile]⟩
  exact bind_eq_ok_iff.mpr ⟨.file content, lookedUp, rfl⟩

/-- A path leads to the file that has been set where it led. -/
theorem land_setFile {tree : FileTree} {path : String} {place : Place} {landing : Landing}
    (content : ByteArray) (notRoot : place ≠ []) (found : tree.land true path = .ok landing)
    (leads : landing = .entry place ∨ landing = .vacant place)
    (replaceable : ∀ entry, tree.entry? place = some entry → ∃ old, entry = .file old) :
    (tree.setFile place content).land true path = .ok (.entry place) := by
  have isFile := tree.entry?_setFile_self notRoot content
  have keeps : tree.KeepsShape (tree.setFile place content) := by
    intro other entry isEntry
    by_cases same : other = place
    · subst same
      obtain ⟨old, rfl⟩ := replaceable entry isEntry
      exact .inr ⟨old, content, rfl, isFile⟩
    · exact .inl (by rw [tree.entry?_setFile_of_ne same, isEntry])
  have sameDirectory : (tree.setFile place content).workingDirectory = tree.workingDirectory := by
    rw [setFile_eq]
    split <;> rfl
  obtain ⟨_, accepted, found⟩ := bind_eq_ok_iff.mp found
  refine bind_eq_ok_iff.mpr ⟨_, accepted, ?_⟩
  rw [sameDirectory]
  exact follow_of_keepsShape keeps isFile found leads

/-- Setting a file where a path leads is writing through the path. -/
theorem written_setFile {tree : FileTree} {path : String} {place : Place} (content : ByteArray)
    (notRoot : place ≠ [])
    (leads : (tree.land true path = .ok (.entry place) ∧
        ∃ old, tree.entry? place = some (.file old)) ∨
      (tree.land true path = .ok (.vacant place) ∧ tree.entry? place = none)) :
    tree.Written path content (tree.setFile place content) := by
  have isFile := tree.entry?_setFile_self notRoot content
  refine ⟨⟨place, leads, isFile, fun other different => ?_⟩, ?_, ?_⟩
  · exact tree.entry?_setFile_of_ne different content
  · rw [setFile_eq]
    split <;> rfl
  · refine read_of_land ?_ isFile
    obtain ⟨found, old, isOld⟩ | ⟨found, free⟩ := leads
    · refine land_setFile content notRoot found (.inl rfl) fun entry isEntry => ?_
      exact ⟨old, Option.some.inj (isEntry.symm.trans isOld)⟩
    · refine land_setFile content notRoot found (.inr rfl) fun entry isEntry => ?_
      rw [free] at isEntry
      cases isEntry

theorem locate_eq_ok_iff_land {tree : FileTree} {path : String} {place : Place} :
    tree.locate path = .ok place ↔ tree.land true path = .ok (.entry place) := by
  unfold locate
  split <;> simp_all

/-- **When a write goes through**: the path is accepted and does not end with a slash, and it leads
to a free name or to a file, which is set, or to a special file that does not refuse the content. -/
theorem write_eq_ok_iff {tree : FileTree} {path : String} {content : ByteArray}
    {result : WriteResult} :
    tree.write path content = .ok result ↔ accept path = .ok () ∧ withoutEndSlashes path = path ∧
      ∃ place,
        (tree.land true path = .ok (.vacant place) ∧
          result = .stored (tree.setFile place content)) ∨
        (tree.land true path = .ok (.entry place) ∧
          (∃ old, tree.entry? place = some (.file old)) ∧
          result = .stored (tree.setFile place content)) ∨
        ∃ device, tree.LeadsToDevice path place device ∧ device.refusal? content = none ∧
          result = .handed place device := by
  constructor
  · intro written
    obtain ⟨_, accepted, written⟩ := bind_eq_ok_iff.mp written
    dsimp only at written
    split at written
    · obtain ⟨_, _, refused⟩ := bind_eq_ok_iff.mp written
      cases refused
    next noSlash =>
      obtain ⟨landing, found, written⟩ := bind_eq_ok_iff.mp written
      refine ⟨accepted, Decidable.not_not.mp noSlash, ?_⟩
      cases landing with
      | vacant place => exact ⟨place, .inl ⟨found, (Except.ok.inj written).symm⟩⟩
      | entry place =>
        refine ⟨place, .inr ?_⟩
        dsimp only at written
        split at written
        next old isFile => exact .inl ⟨found, ⟨old, isFile⟩, (Except.ok.inj written).symm⟩
        next device isDevice =>
          have leads : tree.LeadsToDevice path place device :=
            ⟨locate_eq_ok_iff_land.mpr found, isDevice⟩
          split at written
          next => cases written
          next takes => exact .inr ⟨device, leads, takes, (Except.ok.inj written).symm⟩
        next => cases written
        next => cases written
        next => cases written
  · rintro ⟨accepted, noSlash, place, leads⟩
    refine bind_eq_ok_iff.mpr ⟨(), accepted, ?_⟩
    dsimp only
    rw [if_neg (not_not_intro noSlash)]
    obtain ⟨found, rfl⟩ | ⟨found, ⟨old, isFile⟩, rfl⟩ | ⟨device, leads, takes, rfl⟩ := leads
    · exact bind_eq_ok_iff.mpr ⟨_, found, rfl⟩
    · exact bind_eq_ok_iff.mpr ⟨_, found, by simp only [isFile]⟩
    · refine bind_eq_ok_iff.mpr ⟨_, locate_eq_ok_iff_land.mp leads.located, ?_⟩
      simp only [leads.isDevice, takes]

/-- **A write that changes the tree sets one file.** -/
theorem written_of_write {tree after : FileTree} {path : String} {content : ByteArray}
    (stored : tree.write path content = .ok (.stored after)) : tree.Written path content after := by
  obtain ⟨_, _, place, ⟨found, same⟩ | ⟨found, ⟨old, isFile⟩, same⟩ | ⟨device, _, _, handed⟩⟩ :=
    write_eq_ok_iff.mp stored
  · obtain rfl := WriteResult.stored.inj same
    obtain ⟨_, _, followed⟩ := bind_eq_ok_iff.mp found
    obtain ⟨notRoot, free⟩ := follow_vacant followed
    exact written_setFile content notRoot (.inr ⟨found, free⟩)
  · obtain rfl := WriteResult.stored.inj same
    have notRoot : place ≠ [] := by
      rintro rfl
      cases isFile
    exact written_setFile content notRoot (.inl ⟨found, old, isFile⟩)
  · cases handed

/-- **A write that hands its content on** goes to the special file to which the path leads. -/
theorem leadsToDevice_of_write {tree : FileTree} {path : String} {content : ByteArray}
    {place : Place} {device : Device}
    (handed : tree.write path content = .ok (.handed place device)) :
    tree.LeadsToDevice path place device ∧ device.refusal? content = none := by
  obtain ⟨_, _, other, ⟨_, stored⟩ | ⟨_, _, stored⟩ | ⟨_, leads, takes, same⟩⟩ :=
    write_eq_ok_iff.mp handed
  · cases stored
  · cases stored
  · cases same
    exact ⟨leads, takes⟩

/-- Whether a path can be written through does not depend on what is written, unless it leads to
what is full. -/
theorem exists_write {tree : FileTree} {path : String} {content : ByteArray} {result : WriteResult}
    (written : tree.write path content = .ok result)
    (notFull : ∀ place, ¬ tree.LeadsToDevice path place .full) (other : ByteArray) :
    ∃ instead, tree.write path other = .ok instead := by
  obtain ⟨accepted, noSlash, place, leads⟩ := write_eq_ok_iff.mp written
  obtain ⟨found, _⟩ | ⟨found, isFile, _⟩ | ⟨device, leads, takes, _⟩ := leads
  · exact ⟨_, write_eq_ok_iff.mpr ⟨accepted, noSlash, place, .inl ⟨found, rfl⟩⟩⟩
  · exact ⟨_, write_eq_ok_iff.mpr ⟨accepted, noSlash, place, .inr (.inl ⟨found, isFile, rfl⟩)⟩⟩
  · have otherTakes : device.refusal? other = none := by
      refine Device.refusal?_eq_none takes ?_ other
      rintro rfl
      exact notFull place leads
    exact ⟨_, write_eq_ok_iff.mpr
      ⟨accepted, noSlash, place, .inr (.inr ⟨device, leads, otherTakes, rfl⟩)⟩⟩

end FileTree

end TagAudit
