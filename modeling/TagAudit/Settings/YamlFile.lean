/-
**Settings files in YAML.**

A settings file is a map from keys to texts and flags. A document without content is a file that
sets nothing.

* `YamlFile.read` reads a file into a layer of settings;
* `YamlFileFault.message` words what is wrong with a file. What is wrong with a value is told with
  its key and its place.
-/

import TagAudit.Settings.Keys
import TagAudit.Yaml.Document
import TagAudit.Yaml.Plain

namespace TagAudit

open Yaml

/-- What can be wrong with a settings file whose text can be read. -/
inductive YamlCause where
  | wrongType (found expected : String)
  | wrongValue (found expected : String)
  | unknownKey (name : String)
  | repeatedKey (key : SettingsKey)
deriving Repr, DecidableEq

namespace YamlCause

/-- The words for what is wrong. -/
def words : YamlCause → String
  | wrongType found expected => "invalid type: " ++ found ++ ", expected " ++ expected
  | wrongValue found expected => "invalid value: " ++ found ++ ", expected " ++ expected
  | unknownKey name => unknownKeyText name
  | repeatedKey key => repeatedKeyText key

end YamlCause

/-- What can be wrong with a settings file. -/
inductive YamlFileFault where
  | document (fault : DocumentFault)
  | severalDocuments
  /-- Something is wrong at a place, in the value of a key if one is given. -/
  | content (key : Option String) (cause : YamlCause) (mark : Mark)
deriving Repr, DecidableEq

namespace YamlFileFault

/-- The wording of what is wrong. -/
def message : YamlFileFault → String
  | document (.text fault) => fault.message
  | document (.unknownAnchor mark) => "unknown anchor" ++ mark.suffix
  | document .ended => "EOF while parsing a value"
  | severalDocuments =>
    "deserializing from YAML containing more than one document is not supported"
  | content key cause mark =>
    (match key with
      | some key => key ++ ": "
      | none => "") ++ cause.words ++ mark.suffix

end YamlFileFault

namespace YamlFile

/-- The tags of the types that are known everywhere. -/
def tagOf (type : String) : List Char := "tag:yaml.org,2002:".toList ++ type.toList

/-- The words for a text in a fault. -/
def textWords (text : List Char) : String := (PlainValue.text text).words

/-- What a scalar stands for: its tag decides, and without one its text if it is plain. -/
def scalarValue (tag : Option (List Char)) (text : List Char) (style : ScalarStyle) :
    Except YamlCause PlainValue :=
  let orElse (value : Option PlainValue) (expected : String) : Except YamlCause PlainValue :=
    match value with
    | some value => .ok value
    | none => .error (.wrongValue (textWords text) expected)
  match tag with
  | none => .ok (if style = .plain then PlainValue.ofText text else .text text)
  | some tag =>
    if tag = tagOf "bool" then orElse ((PlainValue.flag? text).map .flag) "a boolean"
    else if tag = tagOf "int" then orElse (PlainValue.integer? text) "an integer"
    else if tag = tagOf "float" then orElse ((PlainValue.number? text).map .number) "a float"
    else if tag = tagOf "null" then
      orElse (if PlainValue.isNull text then some .nothing else none) "null"
    else if tag.head? = some '!' && style = .plain then .ok (PlainValue.ofText text)
    else .ok (.text text)

/-- What is wrong with content that stands where something else is expected. -/
def wrongContent (expected : String) : Content → YamlCause
  | .scalar tag text style =>
    match scalarValue tag text style with
    | .ok value => .wrongType value.words expected
    | .error cause => cause
  | .sequenceStart => .wrongType "sequence" expected
  | _ => .wrongType "map" expected

/-- Whether a scalar can be a flag: it is plain, or literal with the tag of flags. -/
def canBeFlag (tag : Option (List Char)) (style : ScalarStyle) : Bool :=
  style = .plain || (style = .literal && tag = some (tagOf "bool"))

/-- The value of a key. -/
def keyValue (key : SettingsKey) (content : Content) : Except YamlCause SettingsValue :=
  if key.takesFlag then
    match content with
    | .scalar tag text style =>
      match (if canBeFlag tag style then PlainValue.flag? text else none) with
      | some flag => .ok (.flag (some flag))
      | none => .error (wrongContent key.expected content)
    | _ => .error (wrongContent key.expected content)
  else
    match content with
    | .scalar _ text _ => .ok (.text (some (String.ofList text)))
    | _ => .error (wrongContent key.expected content)

/-- The value that leaves a key open. -/
def openValue (key : SettingsKey) : SettingsValue :=
  if key.takesFlag then .flag none else .text none

/-- Whether content leaves its key open: a plain scalar that is empty or a word for nothing. With
the tag for nothing it must be such a word. -/
def leavesOpen (content : Content) : Except YamlCause Bool :=
  match content with
  | .scalar tag text .plain =>
    match tag with
    | none => .ok (text.isEmpty || PlainValue.isNull text)
    | some tag =>
      if tag = tagOf "null" then
        if PlainValue.isNull text then .ok true
        else .error (.wrongValue (textWords text) "null")
      else .ok false
  | _ => .ok false

/-- An event of the document. -/
def event (document : Document) (index : Nat) : Except YamlFileFault (Content × Mark) :=
  match document.resolvedAt index with
  | .ok found => .ok found
  | .error fault => .error (.document fault)

/-- The key at an index, and the name by which faults in its value are told: a key that is an
alias has no name. -/
def keyAt (document : Document) (index : Nat) : Except YamlFileFault (SettingsKey × String) := do
  let (content, mark) ← event document index
  match content with
  | .scalar _ text _ =>
    let name := String.ofList text
    match SettingsKey.ofName? name with
    | none => .error (.content none (.unknownKey name) mark)
    | some key =>
      match document.contents[index]? with
      | some (.reference _, _) => return (key, "?")
      | _ => return (key, name)
  | _ => .error (.content none (wrongContent "field identifier" content) mark)

/-- Whether the map ends at an index. -/
def endsAt (document : Document) (index : Nat) : Except YamlFileFault Bool :=
  match document.eventAt index with
  | .ok (.mappingEnd, _) => .ok true
  | .ok _ => .ok false
  | .error fault => .error (.document fault)

/-- Reads the entries of the map that started at a place; the fuel bounds their number. -/
def readEntries (document : Document) (start : Mark) :
    Nat → Nat → List SettingsKey → Layer → Except YamlFileFault Layer
  | 0, _, _, layer => .ok layer
  | fuel + 1, index, seen, layer => do
    if ← endsAt document index then return layer
    else
      let (key, name) ← keyAt document index
      if seen.contains key then .error (.content none (.repeatedKey key) start)
      else
        let (content, mark) ← event document (index + 1)
        let value ←
          match leavesOpen content with
          | .error cause => .error (.content none cause start)
          | .ok true => .ok (openValue key)
          | .ok false =>
            match keyValue key content with
            | .ok value => .ok value
            | .error cause => .error (.content (some name) cause mark)
        readEntries document start fuel (index + 2) (key :: seen) (layer.set key value)

/-- Reads the settings of a document. -/
def readDocument (document : Document) : Except YamlFileFault Layer := do
  let (content, mark) ← event document 0
  match content with
  | .mappingStart => readEntries document mark (document.contents.length + 1) 1 [] Layer.empty
  | .void | .scalar _ [] .plain => return Layer.empty
  | _ => .error (.content none (wrongContent settingsExpected content) mark)

/-- Whether a character may stand in a text. -/
def isAllowed (c : Char) : Bool :=
  let code := c.toNat
  code == 0x09 || code == 0x0A || code == 0x0D || (0x20 ≤ code && code ≤ 0x7E) || code == 0x85 ||
    (0xA0 ≤ code && code ≤ 0xFFFD && code != 0xFEFF) || 0x10000 ≤ code

/-- The number of bytes before the first character that may not stand in a text. -/
def firstControl? : Nat → List Char → Option Nat
  | _, [] => none
  | offset, c :: rest =>
    if isAllowed c then firstControl? (offset + c.utf8Size) rest else some offset

/-- Reads a settings file into a layer; a byte order mark at its start is left out. -/
def read (text : List Char) : Except YamlFileFault Layer := do
  let (text, width) :=
    match text with
    | '\uFEFF' :: rest => (rest, 3)
    | text => (text, 0)
  match firstControl? width text with
  | some offset => .error (.document (.text (.control offset)))
  | none =>
    let (document, more) := Document.read text
    let layer ← readDocument document
    match document.fault with
    | some fault => .error (.document fault)
    | none => if more then .error .severalDocuments else return layer

end YamlFile

end TagAudit
