/-
**Checking a command line against the files.**

Before a run starts, the paths on its command line have to lead to files or directories, and the
settings file to a file.

* `validatePath` looks at one path, `Arguments.validate` at a whole command line;
* `InvalidArgument.message` words what is wrong.
-/

import TagAudit.CommandLine.Arguments
import TagAudit.Files.Tree

namespace TagAudit

/-- What can be wrong with a path on a command line. -/
inductive InvalidArgument where
  | missing (path : String)
  /-- The path leads to something that is neither a file nor a directory. -/
  | special (path : String)
  | noSettingsFile (path : String)
deriving Repr, DecidableEq

namespace InvalidArgument

/-- The words for what is wrong. -/
def message : InvalidArgument → String
  | missing path => "Path does not exist: " ++ path
  | special path => "Path is neither a file nor a directory: " ++ path
  | noSettingsFile path => "Config file does not exist: " ++ path

end InvalidArgument

/-- Looks at a path that is to be audited. -/
def validatePath (tree : FileTree) (path : String) : Except InvalidArgument Unit :=
  match tree.lookup path with
  | .error _ => .error (.missing path)
  | .ok (.file _) | .ok .directory => .ok ()
  | .ok _ => .error (.special path)

namespace Arguments

/-- Looks at the paths of a command line in order, and then at its settings file. -/
def validate (tree : FileTree) (arguments : Arguments) : Except InvalidArgument Unit := do
  arguments.paths.forM (validatePath tree)
  match arguments.settingsFile with
  | some path => if tree.isFile path then return else .error (.noSettingsFile path)
  | none => return

end Arguments

end TagAudit
