/-
**Tokens of YAML.**

Indentation and the place of a colon decide what a text means, so a token is only given away once
nothing that follows can put another one before it: a scalar may turn out to be a key when a colon
comes behind it in the same line.

* `Token` is a token with the places where it starts and ends;
* `Tokenizer.fetch` reads one more token into the queue;
* `Tokenizer.peek` makes sure that the first token of the queue is settled.
-/

import TagAudit.Yaml.Scalar
import TagAudit.Yaml.Tag

namespace TagAudit.Yaml

/-- The kinds of tokens. -/
inductive TokenKind where
  | streamStart
  | streamEnd
  | directive (directive : Directive)
  | documentStart
  | documentEnd
  | blockSequenceStart
  | blockMappingStart
  | blockEnd
  | flowSequenceStart
  | flowSequenceEnd
  | flowMappingStart
  | flowMappingEnd
  | blockEntry
  | flowEntry
  | key
  | value
  | reference (name : List Char)
  | anchor (name : List Char)
  | tag (handle suffix : List Char)
  | scalar (text : List Char) (style : ScalarStyle)
deriving Repr, DecidableEq

/-- A token with the places where it starts and ends. -/
structure Token where
  kind : TokenKind
  start : Mark
  stop : Mark
deriving Repr, DecidableEq

/-- A place where a key may have started. -/
structure KeyPlace where
  /-- There must be a key here. -/
  required : Bool
  /-- The number of the token with which the key starts. -/
  token : Nat
  mark : Mark
deriving Repr, DecidableEq

/-- The state of reading tokens. -/
structure Tokenizer where
  reader : Reader
  started : Bool
  /-- The indentation of the block, -1 outside of any, and those of the blocks around it. -/
  indent : Int
  outerIndents : List Int
  /-- Whether a key may start here. -/
  keyAllowed : Bool
  /-- Where the key may have started, for each bracket that is open and for the block around
  them, the innermost first. -/
  keys : List (Option KeyPlace)
  /-- The tokens that were read, and how many were taken before. -/
  queue : List Token
  taken : Nat
deriving Repr, DecidableEq

namespace Tokenizer

/-- The state at the start of a text. -/
def ofText (text : List Char) : Tokenizer :=
  ⟨Reader.ofText text, false, -1, [], false, [], [], 0⟩

variable (state : Tokenizer)

/-- The place that was reached. -/
def mark : Mark := state.reader.mark

/-- Whether a bracket is open. -/
def inFlow : Bool := 1 < state.keys.length

/-- Puts a token at the end of the queue. -/
def enqueue (token : Token) : Tokenizer := { state with queue := state.queue ++ [token] }

/-- Puts a token before the one with a number. -/
def insertAt (number : Nat) (token : Token) : Tokenizer :=
  let place := number - state.taken
  { state with queue := state.queue.take place ++ token :: state.queue.drop place }

/-- Reads a token of some characters. -/
def takeSign (kind : TokenKind) (width : Nat) : Tokenizer :=
  let reader := state.reader.skipMany width
  { state with reader := reader }.enqueue ⟨kind, state.mark, reader.mark⟩

/-! ### Keys -/

/-- Fails if a key was required. -/
def requireNone (key : Option KeyPlace) : Except YamlFault Unit :=
  match key with
  | some place =>
    if place.required then state.reader.fail .simpleKey place.mark .noColon else .ok ()
  | none => .ok ()

/-- Gives up the innermost key. -/
def dropKey : Except YamlFault Tokenizer := do
  match state.keys with
  | [] => return state
  | key :: outer =>
    state.requireNone key
    return { state with keys := none :: outer }

/-- Notes that a key may start here. -/
def saveKey : Except YamlFault Tokenizer := do
  if state.keyAllowed then
    let required := !state.inFlow && state.indent == state.mark.column
    let place : KeyPlace := ⟨required, state.taken + state.queue.length, state.mark⟩
    let state ← state.dropKey
    return { state with keys := some place :: state.keys.drop 1 }
  else return state

/-- How long a key may be. -/
def keyLimit : Nat := 1024

/-- Gives up the keys that are too long or did not end in their line, the outermost first. -/
def dropStale : Except YamlFault Tokenizer := do
  let isStale (place : KeyPlace) : Bool :=
    place.mark.line < state.mark.line || place.mark.index + keyLimit < state.mark.index
  let stale := state.keys.reverse.filter fun key => key.any isStale
  stale.forM state.requireNone
  return { state with keys := state.keys.map fun key => key.filter fun place => !isStale place }

/-! ### Blocks -/

/-- Opens a block at a column if it is deeper than the one around it; its token is put before the
token with a number, or at the end. -/
def openBlock (column : Nat) (number : Option Nat) (kind : TokenKind) (mark : Mark) : Tokenizer :=
  if state.inFlow || column ≤ state.indent then state
  else
    let opened :=
      { state with indent := column, outerIndents := state.indent :: state.outerIndents }
    match number with
    | some number => opened.insertAt number ⟨kind, mark, mark⟩
    | none => opened.enqueue ⟨kind, mark, mark⟩

/-- Closes the blocks that are deeper than a column; the fuel bounds their number. -/
def closeBlocksFrom (column : Int) : Nat → Tokenizer → Tokenizer
  | 0, state => state
  | fuel + 1, state =>
    if column < state.indent then
      closeBlocksFrom column fuel
        ({ state with
          indent := state.outerIndents.head?.getD (-1)
          outerIndents := state.outerIndents.drop 1 }.enqueue ⟨.blockEnd, state.mark, state.mark⟩)
    else state

/-- Closes the blocks that are deeper than a column. -/
def closeBlocks (column : Int) : Tokenizer :=
  if state.inFlow then state
  else closeBlocksFrom column (state.outerIndents.length + 1) state

/-! ### One more token -/

/-- Moves over white space, comments and line ends; the fuel bounds their number. Behind a line end
a key may start again. -/
def passGaps : Nat → Tokenizer → Tokenizer
  | 0, state => state
  | fuel + 1, state =>
    let tabs := state.inFlow || !state.keyAllowed
    let reader := (state.reader.passWhile fun c => c == ' ' || (tabs && c == '\t')).2.passComment
    if reader.seesAny isBreak then
      passGaps fuel { state with
        reader := reader.skipLine
        keyAllowed := state.keyAllowed || !state.inFlow }
    else { state with reader := reader }

/-- The end of the text. -/
def fetchEnd : Except YamlFault Tokenizer := do
  let mark := state.mark
  let mark := if mark.column = 0 then mark else { mark with line := mark.line + 1, column := 0 }
  let state := { state with reader := { state.reader with mark := mark } }
  let state ← (state.closeBlocks (-1)).dropKey
  return { state with keyAllowed := false }.enqueue ⟨.streamEnd, mark, mark⟩

/-- A directive. -/
def fetchDirective : Except YamlFault Tokenizer := do
  let state ← (state.closeBlocks (-1)).dropKey
  let (directive, stop, reader) ← readDirective state.reader
  return { state with keyAllowed := false, reader := reader }.enqueue
    ⟨.directive directive, state.mark, stop⟩

/-- A mark of a document. -/
def fetchDocumentMark (kind : TokenKind) : Except YamlFault Tokenizer := do
  let state ← (state.closeBlocks (-1)).dropKey
  return { state with keyAllowed := false }.takeSign kind 3

/-- An opening bracket. -/
def fetchOpening (kind : TokenKind) : Except YamlFault Tokenizer := do
  let state ← state.saveKey
  return { state with keys := none :: state.keys, keyAllowed := true }.takeSign kind 1

/-- A closing bracket. -/
def fetchClosing (kind : TokenKind) : Except YamlFault Tokenizer := do
  let state ← state.dropKey
  let keys := if state.inFlow then state.keys.drop 1 else state.keys
  return { state with keys := keys, keyAllowed := false }.takeSign kind 1

/-- A comma between brackets. -/
def fetchComma : Except YamlFault Tokenizer := do
  let state ← state.dropKey
  return { state with keyAllowed := true }.takeSign .flowEntry 1

/-- Fails with a problem that needs no more words. -/
def failHere {α : Type} (problem : Problem) : Except YamlFault α :=
  .error (.problem problem state.mark none)

/-- The dash of an entry. -/
def fetchEntry : Except YamlFault Tokenizer := do
  if !state.inFlow && !state.keyAllowed then state.failHere .entryNotAllowed
  else
    let state ← (state.openBlock state.mark.column none .blockSequenceStart state.mark).dropKey
    return { state with keyAllowed := true }.takeSign .blockEntry 1

/-- The question mark of a key. -/
def fetchKey : Except YamlFault Tokenizer := do
  if !state.inFlow && !state.keyAllowed then state.failHere .keyNotAllowed
  else
    let state ← (state.openBlock state.mark.column none .blockMappingStart state.mark).dropKey
    return { state with keyAllowed := !state.inFlow }.takeSign .key 1

/-- The colon of a value: what may have been a key is one now. -/
def fetchValue : Except YamlFault Tokenizer := do
  match state.keys.head?.join with
  | some place =>
    let state := state.insertAt place.token ⟨.key, place.mark, place.mark⟩
    let state := state.openBlock place.mark.column (some place.token) .blockMappingStart place.mark
    return { state with keys := none :: state.keys.drop 1, keyAllowed := false }.takeSign .value 1
  | none =>
    if !state.inFlow && !state.keyAllowed then state.failHere .valueNotAllowed
    else
      let state := state.openBlock state.mark.column none .blockMappingStart state.mark
      return { state with keyAllowed := !state.inFlow }.takeSign .value 1

/-- An anchor or alias. -/
def fetchAnchor (context : Context) (kind : List Char → TokenKind) :
    Except YamlFault Tokenizer := do
  let state ← state.saveKey
  let (name, reader) ← readAnchor context state.reader
  return { state with keyAllowed := false, reader := reader }.enqueue
    ⟨kind name, state.mark, reader.mark⟩

/-- A tag. -/
def fetchTag : Except YamlFault Tokenizer := do
  let state ← state.saveKey
  let (handle, suffix, reader) ← readTag state.inFlow state.reader
  return { state with keyAllowed := false, reader := reader }.enqueue
    ⟨.tag handle suffix, state.mark, reader.mark⟩

/-- A block scalar. -/
def fetchBlock (style : ScalarStyle) : Except YamlFault Tokenizer := do
  let state ← state.dropKey
  let scalar ← readBlock (style == .literal) state.indent state.reader
  return { state with keyAllowed := true, reader := scalar.reader }.enqueue
    ⟨.scalar scalar.text style, state.mark, scalar.stop⟩

/-- A quoted scalar. -/
def fetchQuoted (style : ScalarStyle) : Except YamlFault Tokenizer := do
  let state ← state.saveKey
  let scalar ← readQuoted (style == .singleQuoted) state.reader
  return { state with keyAllowed := false, reader := scalar.reader }.enqueue
    ⟨.scalar scalar.text style, state.mark, scalar.stop⟩

/-- A plain scalar. -/
def fetchPlain : Except YamlFault Tokenizer := do
  let state ← state.saveKey
  let (scalar, broken) ← readPlain state.inFlow (state.indent + 1) state.reader
  return { state with keyAllowed := broken, reader := scalar.reader }.enqueue
    ⟨.scalar scalar.text .plain, state.mark, scalar.stop⟩

/-- The signs with which a plain scalar cannot start. -/
def isIndicator (c : Char) : Bool := "-?:,[]\x7b\x7d#&*!|>'\"%@`".toList.contains c

/-- Reads one more token. -/
def fetchNext : Except YamlFault Tokenizer := do
  let state ← (passGaps (state.reader.rest.length + 1) state).dropStale
  let state := state.closeBlocks state.mark.column
  let reader := state.reader
  let flow := state.inFlow
  match reader.peek? with
  | none => state.fetchEnd
  | some c =>
    if reader.mark.column == 0 && c == '%' then state.fetchDirective
    else if reader.atDocumentMark then
      state.fetchDocumentMark (if c == '-' then .documentStart else .documentEnd)
    else if c == '[' then state.fetchOpening .flowSequenceStart
    else if c == '\x7b' then state.fetchOpening .flowMappingStart
    else if c == ']' then state.fetchClosing .flowSequenceEnd
    else if c == '\x7d' then state.fetchClosing .flowMappingEnd
    else if c == ',' then state.fetchComma
    else if c == '-' && reader.gapAt 1 then state.fetchEntry
    else if c == '?' && (flow || reader.gapAt 1) then state.fetchKey
    else if c == ':' && (flow || reader.gapAt 1) then state.fetchValue
    else if c == '*' then state.fetchAnchor .reference .reference
    else if c == '&' then state.fetchAnchor .anchor .anchor
    else if c == '!' then state.fetchTag
    else if c == '|' && !flow then state.fetchBlock .literal
    else if c == '>' && !flow then state.fetchBlock .folded
    else if c == '\'' then state.fetchQuoted .singleQuoted
    else if c == '"' then state.fetchQuoted .doubleQuoted
    else if !(isBlank c || isIndicator c) || (c == '-' && !(reader.peekAt? 1).any isBlank) ||
        (!flow && (c == '?' || c == ':') && !reader.gapAt 1) then state.fetchPlain
    else reader.fail .nextToken reader.mark .badStart

/-- Reads one more token; the first one is the start of the text. -/
def fetch : Except YamlFault Tokenizer :=
  if state.started then state.fetchNext
  else
    .ok ({ state with started := true, keyAllowed := true, keys := [none] }.enqueue
      ⟨.streamStart, state.mark, state.mark⟩)

/-- Whether more tokens have to be read before the first one of the queue is settled. -/
def needsMore : Bool :=
  state.queue.isEmpty || state.keys.any fun key => key.any fun place => place.token == state.taken

/-- Reads tokens until the first one is settled; the fuel bounds their number. -/
def settleFrom : Nat → Tokenizer → Except YamlFault Tokenizer
  | 0, state => .ok state
  | fuel + 1, state => do
    let state ← if state.queue.isEmpty then pure state else state.dropStale
    if state.needsMore then settleFrom fuel (← state.fetch) else return state

/-- The first token of the queue, once it is settled. -/
def peek : Except YamlFault (Token × Tokenizer) := do
  let state ← settleFrom (state.reader.rest.length + state.queue.length + 4) state
  match state.queue with
  | token :: _ => return (token, state)
  | [] => return (⟨.streamEnd, state.mark, state.mark⟩, state)

/-- The state without the first token of the queue. -/
def drop : Tokenizer := { state with queue := state.queue.drop 1, taken := state.taken + 1 }

end Tokenizer

end TagAudit.Yaml
