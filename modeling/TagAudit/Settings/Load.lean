/-
**Loading settings.**

The extension of a settings file tells its format. Without a file given on the command line, one
with a standard name is looked for.

* `loadSettings` reads a settings file into a layer;
* `findSettings` looks for a file with a standard name in a directory.
-/

import TagAudit.Fault
import TagAudit.Files.Tree
import TagAudit.Settings.JsonFile
import TagAudit.Settings.YamlFile

namespace TagAudit

/-- Whether a character is white space. -/
def isWhiteSpace (c : Char) : Bool :=
  let code := c.toNat
  (9 ≤ code && code ≤ 13) || code == 0x20 || code == 0x85 || code == 0xA0 || code == 0x1680 ||
    (0x2000 ≤ code && code ≤ 0x200A) || code == 0x2028 || code == 0x2029 || code == 0x202F ||
    code == 0x205F || code == 0x3000

/-- The words for a file that is no text. -/
def notTextWords : String := "stream did not contain valid UTF-8"

/-- The text of a settings file. -/
def settingsText (tree : FileTree) (path : String) : Except SettingsFault String :=
  match tree.read path with
  | .error cause => .error (.unreadable path cause.message)
  | .ok content =>
    match String.fromUTF8? content with
    | some text => .ok text
    | none => .error (.unreadable path notTextWords)

/-- The layer in the text of a settings file in JSON. -/
def jsonLayer (path : String) (text : List Char) : Except SettingsFault Layer :=
  match JsonFile.read text with
  | .ok layer => .ok layer
  | .error fault => .error (.malformed path (fault.message text))

/-- The layer in the text of a settings file in YAML; a blank file sets nothing. -/
def yamlLayer (path : String) (text : List Char) : Except SettingsFault Layer :=
  if text.all isWhiteSpace then .ok Layer.empty
  else
    match YamlFile.read text with
    | .ok layer => .ok layer
    | .error fault => .error (.malformed path fault.message)

/-- Reads a settings file. The file is read before its format is looked at. -/
def loadSettings (tree : FileTree) (path : String) : Except SettingsFault Layer := do
  let text ← settingsText tree path
  match (Path.extension? path).getD "" with
  | "json" => jsonLayer path text.toList
  | "yaml" | "yml" => yamlLayer path text.toList
  | format => .error (.unknownFormat format)

/-- The standard names of settings files, in the order in which they are looked for. -/
def standardNames : List String := ["allure-tree.yaml", "allure-tree.yml", "allure-tree.json"]

/-- The first settings file with a standard name in a directory. -/
def findSettings (tree : FileTree) (directory : String) : Option String :=
  (standardNames.map (Path.join directory)).find? tree.isFile

end TagAudit
