/-
**File trees.**

A file tree says what stands at which place; a place is the list of names that lead to it from
the root. Directories stand above everything that is in them.

* `FileTree.locate` follows a path, links included, to the place it leads to;
* `FileTree.read` and `FileTree.write` are reading and writing through such a path. Writing
  touches nothing but the entry at the place it leads to; what is written to a special file leaves
  the tree, and `Device` tells where it goes.
-/

import TagAudit.Fault
import TagAudit.Files.Path

namespace TagAudit

/-- The names that lead from the root to an entry. -/
abbrev Place := List String

/-- What becomes of what is written to a special file. -/
inductive Device where
  /-- It is forgotten. -/
  | null
  /-- It is shown on the output of the run, for that is what the special file stands for. -/
  | output
  /-- It goes to where the tree does not reach: the reader of a pipe, a terminal, a disk. -/
  | outside
  /-- There is never room for it. -/
  | full
  /-- Nothing can be written, for the special file cannot be opened; a socket is one. -/
  | closed (cause : OsError)
deriving Repr, DecidableEq

/-- Why a special file refuses a content, if it does. What is full takes the empty content. -/
def Device.refusal? (device : Device) (content : ByteArray) : Option OsError :=
  match device with
  | .full => if content.isEmpty then none else some .noSpaceLeft
  | .closed cause => some cause
  | .null | .output | .outside => none

/-- What can stand at a place. -/
inductive FileEntry where
  | file (content : ByteArray)
  | directory
  /-- A symbolic link; its target is a path from the directory that holds the link. -/
  | link (target : String)
  /-- A special file, which is neither a regular file nor a directory. -/
  | device (device : Device)

/-- The null device. -/
def FileEntry.sink : FileEntry := .device .null

/-- The entries below the root by place, and the place of the working directory. -/
structure FileTree where
  entries : List (Place × FileEntry)
  workingDirectory : Place

/-- Where a path leads: to an entry, or to a free name in a directory. -/
inductive Landing where
  | entry (place : Place)
  | vacant (place : Place)
deriving Repr, DecidableEq

/-- What a write through a path did. -/
inductive WriteResult where
  /-- A file has been set, and this is the tree since. -/
  | stored (tree : FileTree)
  /-- The special file at the place was handed the content, and the tree is as it was. -/
  | handed (place : Place) (device : Device)

namespace FileTree

/-- How many links a path may lead through. -/
def linkLimit : Nat := 40

/-- How many bytes a name may have. -/
def nameLimit : Nat := 255

/-- How many bytes a path may have. -/
def pathLimit : Nat := 4095

/-- The entry at a place; the root is a directory. -/
def entry? (tree : FileTree) (place : Place) : Option FileEntry :=
  match place with
  | [] => some .directory
  | _ => (tree.entries.find? (·.1 = place)).map (·.2)

/-- A directory stands at the place. -/
def isDirectoryAt (tree : FileTree) (place : Place) : Bool :=
  match tree.entry? place with
  | some .directory => true
  | _ => false

/-- The directory in which the steps of a path start. -/
def startOf (path : String) (base : Place) : Place := if Path.isAbsolute path then [] else base

/-- Goes the steps of a path from a place. A step into something that is no directory fails, and
so do a name that is too long and a free name with steps behind it; the free name of the last step
is a landing. A link in last position is followed only if `followLast` is set. -/
def follow (tree : FileTree) (followLast : Bool) (links : Nat) (place : Place)
    (steps : List String) : Except OsError Landing :=
  match steps with
  | [] => .ok (.entry place)
  | step :: rest =>
    if !tree.isDirectoryAt place then .error .notADirectory
    else if step = "" || step = "." then tree.follow followLast links place rest
    else if step = ".." then tree.follow followLast links place.dropLast rest
    else if nameLimit < step.utf8ByteSize then .error .nameTooLong
    else
      let next := place ++ [step]
      match tree.entry? next with
      | none => if rest.isEmpty then .ok (.vacant next) else .error .noSuchFile
      | some (.link target) =>
        if rest.isEmpty && !followLast then .ok (.entry next)
        else
          match links with
          | 0 => .error .tooManyLinks
          | left + 1 =>
            tree.follow followLast left (startOf target place) (Path.steps target ++ rest)
      | some _ => tree.follow followLast links next rest
termination_by (links, steps.length)

/-- Whether a path can be looked at: it has no null character in it, is not empty and not too
long. -/
def accept (path : String) : Except OsError Unit :=
  if path.toList.contains '\x00' then .error .nullInPath
  else if path.isEmpty then .error .noSuchFile
  else if pathLimit < path.utf8ByteSize then .error .nameTooLong
  else .ok ()

/-- Where a path leads from the working directory. -/
def land (tree : FileTree) (followLast : Bool) (path : String) : Except OsError Landing := do
  accept path
  tree.follow followLast linkLimit (startOf path tree.workingDirectory) (Path.steps path)

/-- The place to which a path leads if something stands there. -/
def locate (tree : FileTree) (path : String) : Except OsError Place :=
  match tree.land true path with
  | .ok (.entry place) => .ok place
  | .ok (.vacant _) => .error .noSuchFile
  | .error cause => .error cause

/-- The entry to which a path leads, links followed. -/
def lookup (tree : FileTree) (path : String) : Except OsError FileEntry := do
  match tree.entry? (← tree.locate path) with
  | some entry => .ok entry
  | none => .error .noSuchFile

/-- The path leads to a regular file. -/
def isFile (tree : FileTree) (path : String) : Bool :=
  match tree.lookup path with
  | .ok (.file _) => true
  | _ => false

/-- The path leads to a directory. -/
def isDirectory (tree : FileTree) (path : String) : Bool :=
  match tree.lookup path with
  | .ok .directory => true
  | _ => false

/-- The content of the file to which a path leads. A special file that can be opened reads as
empty, as the null device does; a run reads regular files only. -/
def read (tree : FileTree) (path : String) : Except OsError ByteArray := do
  match ← tree.lookup path with
  | .file content => .ok content
  | .device (.closed cause) => .error cause
  | .device _ => .ok ByteArray.empty
  | .directory => .error .isADirectory
  | .link _ => .error .tooManyLinks

/-- The tree with a file of the given content at a place. -/
def setFile (tree : FileTree) (place : Place) (content : ByteArray) : FileTree :=
  if tree.entries.any (·.1 = place) then
    { tree with entries := tree.entries.map fun (at', entry) =>
        if at' = place then (at', .file content) else (at', entry) }
  else { tree with entries := tree.entries ++ [(place, .file content)] }

/-- The path without the slashes at its end. -/
def withoutEndSlashes (path : String) : String :=
  String.ofList (path.toList.reverse.dropWhile (· = '/')).reverse

/-- Writes a file through a path: an existing file gets the new content, a free name in a
directory becomes a file, and a special file is handed the content. A path that ends with a slash
names no file; it is refused once the directory around its last name has been reached. -/
def write (tree : FileTree) (path : String) (content : ByteArray) :
    Except OsError WriteResult := do
  accept path
  let stem := withoutEndSlashes path
  if stem ≠ path then
    let around := (Path.steps stem).dropLast ++ ["."]
    discard (tree.follow true linkLimit (startOf path tree.workingDirectory) around)
    .error .isADirectory
  else
    match ← tree.land true path with
    | .vacant place => .ok (.stored (tree.setFile place content))
    | .entry place =>
      match tree.entry? place with
      | some (.file _) => .ok (.stored (tree.setFile place content))
      | some (.device device) =>
        match device.refusal? content with
        | some cause => .error cause
        | none => .ok (.handed place device)
      | some .directory => .error .isADirectory
      | some (.link _) => .error .tooManyLinks
      | none => .error .noSuchFile

end FileTree

end TagAudit
