/-
**The keys of a settings file.**

* `SettingsKey` lists the keys in the order in which a list of values gives them;
* `Layer.set?` records a value, and fails if the key has been given before.
-/

import TagAudit.Settings.Basic

namespace TagAudit

/-- The keys that a settings file may set. -/
inductive SettingsKey where
  | classTagTree
  | methodTagTree
  | testClassName
  | testMethodName
  | strictTree
deriving Repr, DecidableEq

namespace SettingsKey

/-- All keys, in the order of a list of values. -/
def all : List SettingsKey :=
  [classTagTree, methodTagTree, testClassName, testMethodName, strictTree]

/-- The name of a key in a file. -/
def name : SettingsKey → String
  | classTagTree => "class-tag-tree"
  | methodTagTree => "method-tag-tree"
  | testClassName => "test-class-name"
  | testMethodName => "test-method-name"
  | strictTree => "strict-tree"

/-- The key with the given name. -/
def ofName? (name : String) : Option SettingsKey := all.find? (·.name = name)

/-- A key takes either a text or a flag. -/
def takesFlag (key : SettingsKey) : Bool := key = strictTree

end SettingsKey

/-- A value for a key. -/
inductive SettingsValue where
  | text (value : Option String)
  | flag (value : Option Bool)
deriving Repr, DecidableEq

namespace Layer

/-- The layer with a value recorded; a value of the wrong kind changes nothing. -/
def set (layer : Layer) (key : SettingsKey) (value : SettingsValue) : Layer :=
  match key, value with
  | .classTagTree, .text text => { layer with classTagTree := text }
  | .methodTagTree, .text text => { layer with methodTagTree := text }
  | .testClassName, .text text => { layer with testClassName := text }
  | .testMethodName, .text text => { layer with testMethodName := text }
  | .strictTree, .flag flag => { layer with strictTree := flag }
  | _, _ => layer

end Layer

/-- The words for a key that is not known. -/
def unknownKeyText (name : String) : String :=
  "unknown field `" ++ name ++ "`, expected one of " ++
    String.intercalate ", " (SettingsKey.all.map fun key => "`" ++ key.name ++ "`")

/-- The words for a key that is given twice. -/
def repeatedKeyText (key : SettingsKey) : String := "duplicate field `" ++ key.name ++ "`"

/-- The words for what a whole settings file has to be. -/
def settingsExpected : String := "struct PartialConfig"

/-- The words for what the value of a key has to be. -/
def SettingsKey.expected (key : SettingsKey) : String :=
  if key.takesFlag then "a boolean" else "a string"

end TagAudit
