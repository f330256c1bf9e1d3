/-
**Directives, anchors and tags of YAML.**

* `readDirective` reads a directive at the start of a line;
* `readAnchor` reads the name of an anchor or alias;
* `readTag` reads a tag as a handle and a suffix.
-/

import TagAudit.Yaml.Reader

namespace TagAudit.Yaml

/-- A directive. -/
inductive Directive where
  | version (major minor : Nat)
  | handle (handle expansion : List Char)
deriving Repr, DecidableEq

/-- The number of bytes that a first byte of UTF-8 announces, 0 if it is none. -/
def octetWidth (octet : Nat) : Nat :=
  if octet < 0x80 then 1
  else if octet / 32 = 6 then 2
  else if octet / 16 = 14 then 3
  else if octet / 8 = 30 then 4
  else 0

/-- Reads escaped bytes of one character; the first one tells how many there are. -/
def readOctets (context : Context) (start : Mark) :
    Nat → Bool → List UInt8 → Reader → Except YamlFault (List UInt8 × Reader)
  | 0, _, octets, reader => .ok (octets, reader)
  | left + 1, isFirst, octets, reader =>
    let digits := (reader.rest.drop 1).take 2
    match reader.sees '%', digits.map hexDigit? with
    | true, [some high, some low] =>
      let octet := high * 16 + low
      let octets := octets ++ [octet.toUInt8]
      if isFirst then
        match octetWidth octet with
        | 0 => reader.fail context start .badLeadOctet
        | width + 1 =>
          -- At most four bytes make up a character.
          readOctets context start (min width left) false octets (reader.skipMany 3)
      else if octet / 64 = 2 then readOctets context start left false octets (reader.skipMany 3)
      else reader.fail context start .badTrailOctet
    | _, _ => reader.fail context start .noOctet

/-- The characters that some bytes stand for. Bytes that make up no character stand for
themselves. -/
def octetText (octets : List UInt8) : List Char :=
  match String.fromUTF8? ⟨octets.toArray⟩ with
  | some text => text.toList
  | none => octets.map fun octet => Char.ofNat octet.toNat

/-- Whether a character may stand in the text of a tag; some only in the long form. -/
def isTagSign (long : Bool) (c : Char) : Bool :=
  isWordSign c || ";/?:@&=+$.%!~*'()".toList.contains c ||
    (long && (c == ',' || c == '[' || c == ']'))

/-- Reads the text of a tag; the fuel bounds its length. -/
def readTagFrom (long : Bool) (context : Context) (start : Mark) :
    Nat → List Char → Reader → Except YamlFault (List Char × Reader)
  | 0, text, reader => .ok (text, reader)
  | fuel + 1, text, reader => do
    if reader.sees '%' then
      let (octets, reader) ← readOctets context start 4 true [] reader
      readTagFrom long context start fuel (text ++ octetText octets) reader
    else
      match reader.peek? with
      | none => return (text, reader)
      | some c =>
        if isTagSign long c then readTagFrom long context start fuel (text ++ [c]) reader.skip
        else return (text, reader)

/-- Reads the text of a tag; `head` is what was read of it before, a mark in front included. The
text ends at a null character, though all of it is read. -/
def readTagText (long : Bool) (context : Context) (head : List Char) (start : Mark)
    (reader : Reader) : Except YamlFault (List Char × Reader) := do
  let (text, after) ← readTagFrom long context start (reader.rest.length + 1) (head.drop 1) reader
  if head.isEmpty && after.mark.index = reader.mark.index then
    after.fail context start .noTagText
  else return (text.takeWhile (· != '\x00'), after)

/-- Reads a handle: an exclamation mark, a word, and another mark if it comes. -/
def readHandle (context : Context) (start : Mark) (reader : Reader) :
    Except YamlFault (List Char × Reader) :=
  if !reader.sees '!' then reader.fail context start .noTagMark
  else
    let (word, reader) := reader.skip.passWhile isWordSign
    if reader.sees '!' then .ok ('!' :: word ++ ['!'], reader.skip)
    else .ok ('!' :: word, reader)

/-- Reads the number of a version. -/
def readVersionNumber (start : Mark) (reader : Reader) : Except YamlFault (Nat × Reader) :=
  let (digits, after) := reader.passWhile Char.isDigit
  if 9 < digits.length then
    (reader.skipMany 9).fail .versionDirective start .longVersion
  else if digits.isEmpty then after.fail .versionDirective start .noVersion
  else .ok (digits.foldl (fun value digit => value * 10 + (digit.toNat - 48)) 0, after)

/-- Reads the value of a version directive. -/
def readVersion (start : Mark) (reader : Reader) : Except YamlFault (Directive × Reader) := do
  let (major, reader) ← readVersionNumber start reader.passBlanks
  if !reader.sees '.' then reader.fail .versionDirective start .noDot
  else
    let (minor, reader) ← readVersionNumber start reader.skip
    return (.version major minor, reader)

/-- Reads the value of a directive for a handle. -/
def readHandleDirective (start : Mark) (reader : Reader) :
    Except YamlFault (Directive × Reader) := do
  let (handle, reader) ← readHandle .handleInDirective start reader.passBlanks
  if handle.getLast? ≠ some '!' then reader.fail .handleInDirectiveText start .noTagMark
  else if !reader.seesAny isBlank then reader.fail .handleDirective start .noSpace
  else
    let (expansion, reader) ← readTagText true .handleDirectiveText [] start reader.passBlanks
    if !reader.gapAt 0 then reader.fail .handleDirective start .noSpaceOrLineEnd
    else return (.handle handle expansion, reader)

/-- Reads a directive; also gives the place where its value ends. -/
def readDirective (reader : Reader) : Except YamlFault (Directive × Mark × Reader) := do
  let start := reader.mark
  let (name, reader) := reader.skip.passWhile isWordSign
  if name.isEmpty then reader.fail .directive start .noDirectiveName
  else if !reader.gapAt 0 then reader.fail .directive start .directiveNameSign
  else
    let (directive, reader) ←
      if name = "YAML".toList then readVersion start reader
      else if name = "TAG".toList then readHandleDirective start reader
      else reader.fail .directive start .unknownDirective
    let stop := reader.mark
    let reader := reader.passBlanks.passComment
    if !reader.atLineEnd then reader.fail .directive start .noLineEnd
    else return (directive, stop, reader.skipLine)

/-- Reads the name of an anchor or alias behind its mark. -/
def readAnchor (context : Context) (reader : Reader) : Except YamlFault (List Char × Reader) :=
  let start := reader.mark
  let (name, reader) := reader.skip.passWhile isWordSign
  let ended := reader.gapAt 0 || reader.seesAny fun c => "?:,]\x7d%@`".toList.contains c
  if name.isEmpty || !ended then reader.fail context start .anchorSign
  else .ok (name, reader)

/-- Reads a tag as a handle and a suffix. In the long form, and for the bare mark, the handle is
empty. -/
def readTag (inFlow : Bool) (reader : Reader) :
    Except YamlFault (List Char × List Char × Reader) := do
  let start := reader.mark
  let (handle, suffix, reader) ← readForm start reader
  if (inFlow && reader.sees ',') || reader.gapAt 0 then return (handle, suffix, reader)
  else reader.fail .tag start .noSpaceOrLineEnd
where
  /-- Reads the tag in its long or short form. -/
  readForm (start : Mark) (reader : Reader) :
      Except YamlFault (List Char × List Char × Reader) := do
    if reader.peekAt? 1 == some '<' then
      let (suffix, reader) ← readTagText true .tagText [] start (reader.skipMany 2)
      if !reader.sees '>' then reader.fail .tag start .noTagEnd
      else return ([], suffix, reader.skip)
    else
      let (handle, reader) ← readHandle .tag start reader
      if 1 < handle.length && handle.getLast? = some '!' then
        let (suffix, reader) ← readTagText false .tagText [] start reader
        return (handle, suffix, reader)
      else
        let (suffix, reader) ← readTagText false .tagText handle start reader
        if suffix.isEmpty then return ([], ['!'], reader)
        else return (['!'], suffix, reader)

end TagAudit.Yaml
