/-
**The command line.**

The files that a command line speaks about are loaded into a file tree, the run is made on the
tree, and what it gave out is printed and written.

* `Snapshot.loadPath` loads what a path leads to, `Snapshot.loadBelow` what stands below a
  directory;
* `main` is the program.
-/

import TagAudit.CommandLine.Run

namespace TagAudit

namespace Snapshot

/-- The path of a place. -/
def pathOf (place : Place) : String := "/" ++ String.intercalate "/" place

/-- What stands at a place, links not followed. -/
def fileType? (place : Place) : IO (Option IO.FS.FileType) := do
  try
    match place.getLast? with
    | none => return some .dir
    | some name =>
      let entry := IO.FS.DirEntry.mk (pathOf place.dropLast) name
      return some (← entry.path.symlinkMetadata).type
  catch _ => return none

/-- A special file stands at a place, or at the end of the links that start there. -/
def isSpecial (place : Place) : IO Bool := do
  try
    let entry := IO.FS.DirEntry.mk (pathOf place.dropLast) (place.getLast?.getD ".")
    return (← entry.path.metadata).type == .other
  catch _ => return false

/-- The special file at a place. What is written to one that is not known here leaves the tree. -/
def deviceAt : Place → Device
  | ["dev", "null"] => .null
  | ["dev", "full"] => .full
  | ["dev", "stdout"] => .output
  | _ => .outside

/-- Adds an entry to a tree unless there is one at its place. -/
def add (tree : FileTree) (place : Place) (entry : FileEntry) : FileTree :=
  if (tree.entry? place).isSome then tree
  else { tree with entries := tree.entries ++ [(place, entry)] }

/-- Adds a file with its content; one that cannot be read is left out. -/
def addFile (tree : FileTree) (place : Place) : IO FileTree := do
  try return add tree place (.file (← IO.FS.readBinFile (pathOf place)))
  catch _ => return tree

/-- Adds what a path with some steps leads to from a place, with all that it passes on its way.
The fuel bounds the number of links. -/
partial def loadSteps (tree : FileTree) (links : Nat) (place : Place) :
    List String → IO FileTree
  | [] => return tree
  | step :: rest => do
    if step = "" || step = "." then loadSteps tree links place rest
    else if step = ".." then loadSteps tree links place.dropLast rest
    else
      let next := place ++ [step]
      match ← fileType? next with
      | none => return tree
      | some .dir => loadSteps (add tree next .directory) links next rest
      | some .file => addFile tree next
      | some .other => return add tree next (.device (deviceAt next))
      | some .symlink =>
        if links = 0 then return tree
        -- The output of the run can be named by links that lead to no path.
        if deviceAt next = .output then return add tree next (.device .output)
        try
          let target := (← IO.FS.realPath (pathOf next)).toString
          loadSteps (add tree next (.link target)) (links - 1) [] (Path.steps target ++ rest)
        catch _ =>
          if ← isSpecial next then return add tree next (.device (deviceAt next))
          return add tree next (.link (pathOf next))

/-- Adds what a path leads to. -/
def loadPath (tree : FileTree) (path : String) : IO FileTree :=
  loadSteps tree FileTree.linkLimit (FileTree.startOf path tree.workingDirectory) (Path.steps path)

/-- Adds the sources below a directory, as far as an audit goes into it. -/
partial def loadBelow (tree : FileTree) (place : Place) : IO FileTree := do
  let parent := IO.FS.DirEntry.mk (pathOf place) "."
  let mut tree := tree
  for entry in ← parent.path.readDir do
    let name := entry.fileName
    let next := place ++ [name]
    match ← fileType? next with
    | some .dir =>
      if WalkRule.sources.enters name then tree ← loadBelow (add tree next .directory) next
    | some .file => if WalkRule.sources.lists name then tree ← addFile tree next
    | _ => pure ()
  return tree

/-- Adds what a path leads to, and the sources below it if that is a directory. -/
def loadSources (tree : FileTree) (path : String) : IO FileTree := do
  let tree ← loadPath tree path
  match tree.locate path with
  | .ok place => if tree.isDirectoryAt place then loadBelow tree place else return tree
  | .error _ => return tree

/-- The files that a command line speaks about. -/
def ofArguments (arguments : Arguments) : IO FileTree := do
  let directory := (← IO.currentDir).toString
  let empty : FileTree := ⟨[], (Path.steps directory).filter (· != "")⟩
  let mut tree ← loadPath empty directory
  for path in arguments.settingsFile.toList ++ arguments.outputFile.toList do
    tree ← loadPath tree path
  for name in standardNames do
    tree ← loadPath tree (Path.join "." name)
  for path in arguments.paths do
    tree ← loadSources tree path
  return tree

end Snapshot

/-- What a run leaves to be written through a path. What shows on its output is printed. -/
def contentFor (outcome : Outcome) (path : String) : Option ByteArray :=
  match outcome.handed with
  | some (_, report) => if outcome.output.isEmpty then some report.toUTF8 else none
  | none => (outcome.tree.read path).toOption

/-- Writes the report to its file; the line about a failure if that is refused. -/
def save (arguments : Arguments) (outcome : Outcome) : IO (Option String) := do
  match arguments.outputFile, outcome.failure with
  | some path, none =>
    match contentFor outcome path with
    | none => return none
    | some content =>
      try
        IO.FS.writeBinFile path content
        return none
      catch problem => return some ("error: Failed to write report: " ++ toString problem)
  | _, _ => return outcome.failure

end TagAudit

open TagAudit

/-- The program. -/
def main (words : List String) : IO UInt32 := do
  match Arguments.parse words with
  | .error _ =>
    let outcome := TagAudit.run ⟨[], []⟩ words
    IO.print outcome.output
    outcome.failure.forM fun line => IO.eprintln line
    return outcome.status.toUInt32
  | .ok arguments =>
    let outcome := TagAudit.run (← Snapshot.ofArguments arguments) words
    IO.print outcome.output
    match ← save arguments outcome with
    | some line =>
      IO.eprintln line
      return 2
    | none => return outcome.status.toUInt32
