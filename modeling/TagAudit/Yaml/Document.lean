/-
**Documents of YAML.**

A document is the list of its events, with aliases resolved to the places of what they stand for.
A fault in the text ends the list and is kept: it counts only for those who read that far.

* `Document.read` reads the first document of a text;
* `Document.eventAt` is an event of a document, or the fault that ended it.
-/

import TagAudit.Yaml.Event

namespace TagAudit.Yaml

/-- The events inside of a document. -/
inductive Content where
  | reference (target : Nat)
  | scalar (tag : Option (List Char)) (text : List Char) (style : ScalarStyle)
  | sequenceStart
  | sequenceEnd
  | mappingStart
  | mappingEnd
  /-- There is no document. -/
  | void
deriving Repr, DecidableEq

/-- What ends a document before its time. -/
inductive DocumentFault where
  | text (fault : YamlFault)
  | unknownAnchor (mark : Mark)
  /-- The document is over. -/
  | ended
deriving Repr, DecidableEq

/-- The events of a document with their places, what numbers of aliases stand for, and the fault
that ended it. -/
structure Document where
  contents : List (Content × Mark)
  targets : List (Nat × Nat)
  fault : Option DocumentFault
deriving Repr, DecidableEq

/-- A document on the way: also the names of anchors with their numbers. -/
structure DocumentParts where
  contents : List (Content × Mark)
  targets : List (Nat × Nat)
  anchors : List (List Char × Nat)
deriving Repr, DecidableEq

namespace DocumentParts

/-- The document as far as it was read. -/
def finish (parts : DocumentParts) (fault : Option DocumentFault) : Document :=
  ⟨parts.contents, parts.targets, fault⟩

/-- Adds an event. -/
def add (parts : DocumentParts) (content : Content) (mark : Mark) : DocumentParts :=
  { parts with contents := parts.contents ++ [(content, mark)] }

/-- Notes an anchor at the next event. Its number is the number of names known so far, so a name
that is used again may take over the number of another one. -/
def note (parts : DocumentParts) (anchor : Option (List Char)) : DocumentParts :=
  match anchor with
  | none => parts
  | some name =>
    let number := parts.anchors.length
    { parts with
      anchors := (name, number) :: parts.anchors.filter (·.1 ≠ name)
      targets := (number, parts.contents.length) :: parts.targets.filter (·.1 ≠ number) }

end DocumentParts

namespace Document

/-- Reads events up to the end of a document; the reader behind it, and whether there was a
document at all. The fuel bounds the number of events. -/
def readFrom (isFirst : Bool) : Nat → DocumentParts → EventReader →
    Option (Document × EventReader)
  | 0, parts, reader => some (parts.finish none, reader)
  | fuel + 1, parts, reader =>
    match reader.next with
    | .error fault => some (parts.finish (some (.text fault)), reader)
    | .ok (event, reader) =>
      let go (parts : DocumentParts) := readFrom isFirst fuel parts reader
      match event.kind with
      | .streamStart | .documentStart => go parts
      | .streamEnd =>
        if isFirst then
          let parts := if parts.contents.isEmpty then parts.add .void event.mark else parts
          some (parts.finish none, reader)
        else none
      | .documentEnd => some (parts.finish none, reader)
      | .reference name =>
        match parts.anchors.find? (·.1 = name) with
        | some (_, number) => go (parts.add (.reference number) event.mark)
        | none => some (parts.finish (some (.unknownAnchor event.mark)), reader)
      | .scalar anchor tag text style =>
        go ((parts.note anchor).add (.scalar tag text style) event.mark)
      | .sequenceStart anchor => go ((parts.note anchor).add .sequenceStart event.mark)
      | .mappingStart anchor => go ((parts.note anchor).add .mappingStart event.mark)
      | .sequenceEnd => go (parts.add .sequenceEnd event.mark)
      | .mappingEnd => go (parts.add .mappingEnd event.mark)

/-- How many events a text can have at most: no more than a few for each character. -/
def eventLimit (text : List Char) : Nat := 8 * text.length + 16

/-- The first document of a text, and whether there is another one behind it or something that
keeps one from being read. -/
def read (text : List Char) : Document × Bool :=
  let empty : DocumentParts := ⟨[], [], []⟩
  match readFrom true (eventLimit text) empty (EventReader.ofText text) with
  | none => (empty.finish none, false)
  | some (document, reader) =>
    (document, (readFrom false (eventLimit text) empty reader).isSome)

/-- An event of a document, or what ended the document before it. -/
def eventAt (document : Document) (index : Nat) : Except DocumentFault (Content × Mark) :=
  match document.contents[index]? with
  | some event => .ok event
  | none => .error (document.fault.getD .ended)

/-- The event that an alias stands for, or the event itself. -/
def resolvedAt (document : Document) (index : Nat) : Except DocumentFault (Content × Mark) := do
  let (content, mark) ← document.eventAt index
  match content with
  | .reference number =>
    match document.targets.find? (·.1 = number) with
    | some (_, target) => document.eventAt target
    | none => .error (.unknownAnchor mark)
  | _ => return (content, mark)

end Document

end TagAudit.Yaml
