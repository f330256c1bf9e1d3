/-
**Events of YAML.**

Tokens are put together to events: documents, lists and maps start and end, and scalars and
aliases stand in between. What is left out in a text, such as the value of a key, is an empty
scalar.

* `Event` is an event with the place where it starts;
* `EventReader.next` gives the next event. A fault in the text comes up only when the event is
  asked for that it spoils.
-/

import TagAudit.Yaml.Token

namespace TagAudit.Yaml

/-- The kinds of events. -/
inductive EventKind where
  | streamStart
  | streamEnd
  | documentStart
  | documentEnd
  | reference (name : List Char)
  | scalar (anchor : Option (List Char)) (tag : Option (List Char)) (text : List Char)
      (style : ScalarStyle)
  | sequenceStart (anchor : Option (List Char))
  | sequenceEnd
  | mappingStart (anchor : Option (List Char))
  | mappingEnd
deriving Repr, DecidableEq

/-- An event with the place where it starts. -/
structure Event where
  kind : EventKind
  mark : Mark
deriving Repr, DecidableEq

/-- What is expected next. -/
inductive Expected where
  | stream
  | firstDocument
  | document
  | documentContent
  | documentEnd
  | blockNode
  | blockSequenceFirst
  | blockSequenceEntry
  | indentlessEntry
  | blockMappingFirst
  | blockMappingKey
  | blockMappingValue
  | flowSequenceFirst
  | flowSequenceEntry
  | pairKey
  | pairValue
  | pairEnd
  | flowMappingFirst
  | flowMappingKey
  | flowMappingValue
  | flowMappingNoValue
  | nothing
deriving Repr, DecidableEq

/-- The state of reading events. -/
structure EventReader where
  tokens : Tokenizer
  expected : Expected
  /-- What is expected behind the collections that are open, the innermost first. -/
  later : List Expected
  /-- Where the collections that are open started, the innermost first. -/
  starts : List Mark
  /-- The handles of tags that are known in the document. -/
  handles : List (List Char × List Char)
deriving Repr, DecidableEq

namespace EventReader

/-- The state at the start of a text. -/
def ofText (text : List Char) : EventReader := ⟨Tokenizer.ofText text, .stream, [], [], []⟩

/-- An event and the state behind it. -/
abbrev Step := Except YamlFault (Event × EventReader)

variable (reader : EventReader)

/-- The next token. -/
def peek : Except YamlFault (Token × EventReader) := do
  let (token, tokens) ← reader.tokens.peek
  return (token, { reader with tokens := tokens })

/-- The state without the next token. -/
def drop : EventReader := { reader with tokens := reader.tokens.drop }

/-- The token behind the next one. -/
def advance : Except YamlFault (Token × EventReader) := reader.drop.peek

/-- The state in which something is expected. -/
def expect (expected : Expected) : EventReader := { reader with expected := expected }

/-- The state that expects something now and something else behind it. -/
def expectBehind (expected later : Expected) : EventReader :=
  { reader with expected := expected, later := later :: reader.later }

/-- The state behind the innermost thing that was expected. -/
def leave : EventReader :=
  { reader with expected := reader.later.head?.getD .nothing, later := reader.later.drop 1 }

/-- The state behind a collection. -/
def leaveCollection : EventReader := { reader.leave with starts := reader.starts.drop 1 }

/-- The state inside of a collection that starts with the next token. -/
def enter (mark : Mark) : EventReader := { reader.drop with starts := mark :: reader.starts }

/-- A scalar that is left out. -/
def emptyScalar (mark : Mark) (reader : EventReader) : Step :=
  .ok (⟨.scalar none none [] .plain, mark⟩, reader)

/-- Fails at a token while a collection was being read. -/
def failInside {α : Type} (context : Context) (problem : Problem) (token : Token) :
    Except YamlFault α :=
  .error (.problem problem token.start
    (some (context, reader.starts.head?.getD .start)))

/-! ### Nodes -/

/-- The handles that are known in every document. -/
def standardHandles : List (List Char × List Char) :=
  [("!".toList, "!".toList), ("!!".toList, "tag:yaml.org,2002:".toList)]

/-- An anchor and a tag before a node, and the places where they start and end. -/
structure Properties where
  anchor : Option (List Char)
  tag : Option (List Char × List Char × Mark)
  start : Mark
  stop : Mark

/-- Reads an anchor and a tag in either order. -/
def properties (token : Token) : Except YamlFault (Properties × Token × EventReader) := do
  match token.kind with
  | .anchor name =>
    let (second, after) ← reader.advance
    match second.kind with
    | .tag handle suffix =>
      let (third, last) ← after.advance
      return (⟨some name, some (handle, suffix, second.start), token.start, second.stop⟩, third,
        last)
    | _ => return (⟨some name, none, token.start, token.stop⟩, second, after)
  | .tag handle suffix =>
    let (second, after) ← reader.advance
    match second.kind with
    | .anchor name =>
      let (third, last) ← after.advance
      return (⟨some name, some (handle, suffix, token.start), token.start, second.stop⟩, third,
        last)
    | _ => return (⟨none, some (handle, suffix, token.start), token.start, token.stop⟩, second,
        after)
  | _ => return (⟨none, none, token.start, token.start⟩, token, reader)

/-- The tag that a handle and a suffix stand for. -/
def resolveTag (properties : Properties) : Except YamlFault (Option (List Char)) :=
  match properties.tag with
  | none => .ok none
  | some (handle, suffix, mark) =>
    if handle.isEmpty then .ok (some suffix)
    else
      match reader.handles.find? (·.1 = handle) with
      | some (_, expansion) => .ok (some (expansion ++ suffix))
      | none => .error (.problem .unknownHandle mark (some (.node, properties.start)))

/-- The tag of a scalar: the bare mark is none. -/
def scalarTag (tag : Option (List Char)) : Option (List Char) := tag.filter (· != ['!'])

/-- A node. In a block, lists and maps by indentation can come; `indentless` tells that a list may
start without more indentation. -/
def node (block indentless : Bool) : Step := do
  let (token, reader) ← reader.peek
  match token.kind with
  | .reference name => return (⟨.reference name, token.start⟩, reader.drop.leave)
  | _ =>
    let (found, token, reader) ← reader.properties token
    let tag ← reader.resolveTag found
    let started (kind : EventKind) (expected : Expected) : Step :=
      .ok (⟨kind, found.start⟩, reader.expect expected)
    let bare : Step :=
      if found.anchor.isSome || tag.isSome then
        .ok (⟨.scalar found.anchor tag [] .plain, found.start⟩, reader.leave)
      else
        .error (.problem .noContent token.start
          (some (if block then .blockNode else .flowNode, found.start)))
    match token.kind with
    | .blockEntry =>
      if indentless then started (.sequenceStart found.anchor) .indentlessEntry else bare
    | .scalar text style =>
      return (⟨.scalar found.anchor (scalarTag tag) text style, found.start⟩, reader.drop.leave)
    | .flowSequenceStart => started (.sequenceStart found.anchor) .flowSequenceFirst
    | .flowMappingStart => started (.mappingStart found.anchor) .flowMappingFirst
    | .blockSequenceStart =>
      if block then started (.sequenceStart found.anchor) .blockSequenceFirst else bare
    | .blockMappingStart =>
      if block then started (.mappingStart found.anchor) .blockMappingFirst else bare
    | _ => bare

/-- A node, behind which something else is expected. -/
def nodeBefore (later : Expected) (block indentless : Bool) : Step :=
  (reader.expectBehind .nothing later).node block indentless

/-! ### Documents -/

/-- Reads directives; the fuel bounds their number. -/
def directives : Nat → Bool → EventReader → Except YamlFault EventReader
  | 0, _, reader => .ok reader
  | fuel + 1, versioned, reader => do
    let (token, reader) ← reader.peek
    match token.kind with
    | .directive (.version major minor) =>
      if versioned then .error (.problem .repeatedVersion token.start none)
      else if major = 1 && (minor = 1 || minor = 2) then directives fuel true reader.drop
      else .error (.problem .wrongVersion token.start none)
    | .directive (.handle handle expansion) =>
      if reader.handles.any (·.1 = handle) then
        .error (.problem .repeatedHandle token.start none)
      else
        directives fuel versioned
          { reader.drop with handles := reader.handles ++ [(handle, expansion)] }
    | _ => return reader

/-- The state with the handles that every document knows. -/
def withStandardHandles : EventReader :=
  { reader with handles := reader.handles ++ standardHandles.filter fun (handle, _) =>
      !reader.handles.any (·.1 = handle) }

/-- Moves over the end marks of documents; the fuel bounds their number. -/
def passEnds : Nat → EventReader → Except YamlFault (Token × EventReader)
  | 0, reader => reader.peek
  | fuel + 1, reader => do
    let (token, reader) ← reader.peek
    match token.kind with
    | .documentEnd => passEnds fuel reader.drop
    | _ => return (token, reader)

/-- How many tokens there can be at most. -/
def tokenLimit : Nat := reader.tokens.reader.rest.length + reader.tokens.queue.length + 1

/-- The start of a document that is announced. -/
def explicitDocument (mark : Mark) : Step := do
  let reader ← directives reader.tokenLimit false reader
  let (token, reader) ← reader.peek
  match token.kind with
  | .documentStart =>
    return (⟨.documentStart, mark⟩,
      reader.withStandardHandles.drop.expectBehind .documentContent .documentEnd)
  | _ => .error (.problem .noDocumentStart token.start none)

/-- The start of a document, or the end of the text. Only the first document may start without
being announced. -/
def documentStart (first : Bool) : Step := do
  let (token, reader) ← if first then reader.peek else passEnds reader.tokenLimit reader
  match token.kind with
  | .streamEnd => return (⟨.streamEnd, token.start⟩, reader.drop.expect .nothing)
  | .directive _ | .documentStart => reader.explicitDocument token.start
  | _ =>
    if first then
      return (⟨.documentStart, token.start⟩,
        reader.withStandardHandles.expectBehind .blockNode .documentEnd)
    else reader.explicitDocument token.start

/-- The content of a document that was announced. -/
def documentContent : Step := do
  let (token, reader) ← reader.peek
  match token.kind with
  | .directive _ | .documentStart | .documentEnd | .streamEnd =>
    emptyScalar token.start reader.leave
  | _ => reader.node true false

/-- The end of a document. -/
def documentEnd : Step := do
  let (token, reader) ← reader.peek
  let reader := if token.kind = .documentEnd then reader.drop else reader
  return (⟨.documentEnd, token.start⟩, { reader with handles := [], expected := .document })

/-! ### Blocks -/

/-- An entry of a list by indentation, or its end. -/
def blockSequenceEntry : Step := do
  let (token, reader) ← reader.peek
  match token.kind with
  | .blockEntry =>
    let (next, reader) ← reader.advance
    match next.kind with
    | .blockEntry | .blockEnd => emptyScalar token.stop (reader.expect .blockSequenceEntry)
    | _ => reader.nodeBefore .blockSequenceEntry true false
  | .blockEnd => return (⟨.sequenceEnd, token.start⟩, reader.drop.leaveCollection)
  | _ => reader.failInside .blockCollection .noEntry token

/-- An entry of a list without more indentation than the map around it, or its end. -/
def indentlessEntry : Step := do
  let (token, reader) ← reader.peek
  match token.kind with
  | .blockEntry =>
    let (next, reader) ← reader.advance
    match next.kind with
    | .blockEntry | .key | .value | .blockEnd =>
      emptyScalar token.stop (reader.expect .indentlessEntry)
    | _ => reader.nodeBefore .indentlessEntry true false
  | _ => return (⟨.sequenceEnd, token.start⟩, reader.leave)

/-- Whether a token ends the key or value of a map by indentation. -/
def endsBlockPart : TokenKind → Bool
  | .key | .value | .blockEnd => true
  | _ => false

/-- A key of a map by indentation, or its end. -/
def blockMappingKey : Step := do
  let (token, reader) ← reader.peek
  match token.kind with
  | .key =>
    let (next, reader) ← reader.advance
    if endsBlockPart next.kind then emptyScalar token.stop (reader.expect .blockMappingValue)
    else reader.nodeBefore .blockMappingValue true true
  | .blockEnd => return (⟨.mappingEnd, token.start⟩, reader.drop.leaveCollection)
  | _ => reader.failInside .blockMapping .noKey token

/-- A value of a map by indentation. -/
def blockMappingValue : Step := do
  let (token, reader) ← reader.peek
  match token.kind with
  | .value =>
    let (next, reader) ← reader.advance
    if endsBlockPart next.kind then emptyScalar token.stop (reader.expect .blockMappingKey)
    else reader.nodeBefore .blockMappingKey true true
  | _ => emptyScalar token.start (reader.expect .blockMappingKey)

/-! ### Brackets -/

/-- The token behind a comma, which must come unless the collection has just started; none if the
collection ends. -/
def behindComma (first : Bool) (closing : TokenKind) (context : Context) (problem : Problem) :
    Except YamlFault (Token × EventReader) := do
  let (token, reader) ← reader.peek
  if first || token.kind = closing then return (token, reader)
  else
    match token.kind with
    | .flowEntry => reader.advance
    | _ => reader.failInside context problem token

/-- An entry of a list in brackets, or its end. -/
def flowSequenceEntry (first : Bool) : Step := do
  let (token, reader) ←
    reader.behindComma first .flowSequenceEnd .flowSequence .noCommaInList
  match token.kind with
  | .flowSequenceEnd => return (⟨.sequenceEnd, token.start⟩, reader.drop.leaveCollection)
  | .key => return (⟨.mappingStart none, token.start⟩, reader.drop.expect .pairKey)
  | _ => reader.nodeBefore .flowSequenceEntry false false

/-- The key of a pair in a list. -/
def pairKey : Step := do
  let (token, reader) ← reader.peek
  match token.kind with
  | .value | .flowEntry | .flowSequenceEnd =>
    emptyScalar token.stop (reader.drop.expect .pairValue)
  | _ => reader.nodeBefore .pairValue false false

/-- The value of a pair in a list. -/
def pairValue : Step := do
  let (token, reader) ← reader.peek
  match token.kind with
  | .value =>
    let (next, reader) ← reader.advance
    match next.kind with
    | .flowEntry | .flowSequenceEnd => emptyScalar next.start (reader.expect .pairEnd)
    | _ => reader.nodeBefore .pairEnd false false
  | _ => emptyScalar token.start (reader.expect .pairEnd)

/-- The end of a pair in a list. -/
def pairEnd : Step := do
  let (token, reader) ← reader.peek
  return (⟨.mappingEnd, token.start⟩, reader.expect .flowSequenceEntry)

/-- A key of a map in braces, or its end. -/
def flowMappingKey (first : Bool) : Step := do
  let (token, reader) ← reader.behindComma first .flowMappingEnd .flowMapping .noCommaInMap
  match token.kind with
  | .flowMappingEnd => return (⟨.mappingEnd, token.start⟩, reader.drop.leaveCollection)
  | .key =>
    let (next, reader) ← reader.advance
    match next.kind with
    | .value | .flowEntry | .flowMappingEnd =>
      emptyScalar next.start (reader.expect .flowMappingValue)
    | _ => reader.nodeBefore .flowMappingValue false false
  | _ => reader.nodeBefore .flowMappingNoValue false false

/-- A value of a map in braces. -/
def flowMappingValue : Step := do
  let (token, reader) ← reader.peek
  match token.kind with
  | .value =>
    let (next, reader) ← reader.advance
    match next.kind with
    | .flowEntry | .flowMappingEnd => emptyScalar next.start (reader.expect .flowMappingKey)
    | _ => reader.nodeBefore .flowMappingKey false false
  | _ => emptyScalar token.start (reader.expect .flowMappingKey)

/-- The value of a key in braces that has none. -/
def flowMappingNoValue : Step := do
  let (token, reader) ← reader.peek
  emptyScalar token.start (reader.expect .flowMappingKey)

/-- The state inside of the collection that starts here. -/
def entered : Except YamlFault EventReader := do
  let (token, reader) ← reader.peek
  return reader.enter token.start

/-! ### The next event -/

/-- The next event; the end of the text comes again and again. -/
def next : Step := do
  match reader.expected with
  | .stream =>
    let (token, reader) ← reader.peek
    return (⟨.streamStart, token.start⟩, reader.drop.expect .firstDocument)
  | .firstDocument => reader.documentStart true
  | .document => reader.documentStart false
  | .documentContent => reader.documentContent
  | .documentEnd => reader.documentEnd
  | .blockNode => reader.node true false
  | .blockSequenceFirst => (← reader.entered).blockSequenceEntry
  | .blockSequenceEntry => reader.blockSequenceEntry
  | .indentlessEntry => reader.indentlessEntry
  | .blockMappingFirst => (← reader.entered).blockMappingKey
  | .blockMappingKey => reader.blockMappingKey
  | .blockMappingValue => reader.blockMappingValue
  | .flowSequenceFirst => (← reader.entered).flowSequenceEntry true
  | .flowSequenceEntry => reader.flowSequenceEntry false
  | .pairKey => reader.pairKey
  | .pairValue => reader.pairValue
  | .pairEnd => reader.pairEnd
  | .flowMappingFirst => (← reader.entered).flowMappingKey true
  | .flowMappingKey => reader.flowMappingKey false
  | .flowMappingValue => reader.flowMappingValue
  | .flowMappingNoValue => reader.flowMappingNoValue
  | .nothing => return (⟨.streamEnd, reader.tokens.mark⟩, reader)

end EventReader

end TagAudit.Yaml
