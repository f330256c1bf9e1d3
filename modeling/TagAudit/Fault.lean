/-
**What can go wrong, and how it is worded.**

* `FileFault`, `SourceFault` and `SettingsFault` are the causes by origin;
* `Fault.message` is the wording of each cause.
-/

import TagAudit.Files.OsError
import TagAudit.Module.Basic

namespace TagAudit

/-- Why a walk cannot go on: what it could not open, and the refusal. -/
structure ScanFault where
  path : String
  cause : OsError
deriving Repr, DecidableEq

/-- The wording of what stops a walk. -/
def ScanFault.message (fault : ScanFault) : String :=
  "IO error for operation on " ++ fault.path ++ ": " ++ fault.cause.message

/-- Trouble with a file or directory. -/
inductive FileFault where
  | notFound (path : String)
  | unreadable (path : String) (cause : OsError)
  | unwritable (path : String) (cause : OsError)
  | unscannable (path : String) (cause : ScanFault)
deriving Repr, DecidableEq

namespace FileFault

/-- The wording of trouble with a file. -/
def message : FileFault → String
  | notFound path => "file not found: " ++ path
  | unreadable path cause => "failed to read file '" ++ path ++ "': " ++ cause.message
  | unwritable path cause => "failed to write file '" ++ path ++ "': " ++ cause.message
  | unscannable path cause => "failed to scan directory '" ++ path ++ "': " ++ cause.message

/-- The wordings of what is behind the trouble, down to the refusal of the operating system. -/
def causes : FileFault → List String
  | notFound _ => []
  | unreadable _ cause => [cause.message]
  | unwritable _ cause => [cause.message]
  | unscannable _ cause => [cause.message, cause.cause.message]

end FileFault

/-- Trouble with reading a source. -/
inductive SourceFault where
  | unknownLanguage (language : String)
  | notParsed (path : String)
  | invalid (path : String) (location : Location)
deriving Repr, DecidableEq

namespace SourceFault

/-- The wording of trouble with a source. -/
def message : SourceFault → String
  | unknownLanguage language => "failed to set parser language: " ++ language
  | notParsed path => "failed to parse source code in " ++ path
  | invalid path location =>
    "invalid syntax in " ++ path ++ " at " ++ toString location.line ++ ":" ++
      toString location.column ++ ", checked the recovered tree"

end SourceFault

/-- Trouble with a settings file. -/
inductive SettingsFault where
  | unreadable (path reason : String)
  | malformed (path reason : String)
  | unknownFormat (format : String)
deriving Repr, DecidableEq

namespace SettingsFault

/-- The wording of trouble with a settings file. -/
def message : SettingsFault → String
  | unreadable path reason => "failed to read config file '" ++ path ++ "': " ++ reason
  | malformed path reason => "failed to parse config file '" ++ path ++ "': " ++ reason
  | unknownFormat format =>
    "unsupported config format: " ++ format ++ " (expected json or yaml)"

end SettingsFault

/-- Any trouble that a run can record. -/
inductive Fault where
  | file (fault : FileFault)
  | source (fault : SourceFault)
  | settings (fault : SettingsFault)
deriving Repr, DecidableEq

namespace Fault

/-- The wording of any trouble. -/
def message : Fault → String
  | file fault => fault.message
  | source fault => fault.message
  | settings fault => fault.message

end Fault

end TagAudit
