/-
**The audit of sources.**

A source is read, outlined and checked. An error in a source is recorded, and what could be read
of it is checked all the same; a file that cannot be read is a result of its own.

* `auditModule` is the result for an outlined source, `auditSource` for its bytes;
* `auditFile` and `auditPaths` read the sources from a file tree.
-/

import TagAudit.Check.Basic
import TagAudit.Files.Walk
import TagAudit.Module.Shown
import TagAudit.Report.Basic

namespace TagAudit

/-- The result for an outlined source. -/
def auditModule (settings : Settings) (path : String) (module : Module) : FileResult where
  path := path
  diagnostics := checkModule settings Check.registered module
  faults := (module.firstError.map fun place => Fault.source (.invalid path place)).toList

/-- The result for the bytes of a source. -/
def auditSource (settings : Settings) (path : String) (source : ByteArray) : FileResult :=
  auditModule settings path (Module.ofSource source)

/-- The result for a file. -/
def auditFile (settings : Settings) (tree : FileTree) (path : String) : FileResult :=
  match tree.read path with
  | .ok source => auditSource settings path source
  | .error cause => ⟨path, [], [.file (.unreadable path cause)]⟩

/-- The results for all source files that some paths stand for. -/
def auditPaths (settings : Settings) (tree : FileTree) (paths : List String) :
    Except FileFault (List FileResult) := do
  return (← tree.collect paths).map (auditFile settings tree)

end TagAudit
