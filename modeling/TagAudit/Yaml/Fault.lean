/-
**Faults in YAML.**

A fault says what is wrong and where, and often what was being read and where that started.

* `Mark` is a place in a text;
* `Problem` and `Context` list what can be wrong and what can be read;
* `YamlFault.message` words a fault. A place at the very start of a text is not named.
-/

namespace TagAudit.Yaml

/-- A place in a text; all numbers count characters from zero. -/
structure Mark where
  index : Nat
  line : Nat
  column : Nat
deriving Repr, DecidableEq, Inhabited

namespace Mark

/-- The start of a text. -/
def start : Mark := ⟨0, 0, 0⟩

/-- Whether the place is at the start of the first line. -/
def isStart (mark : Mark) : Bool := mark.line == 0 && mark.column == 0

/-- The words for a place, with lines and columns counted from one. -/
def words (mark : Mark) : String :=
  "line " ++ toString (mark.line + 1) ++ " column " ++ toString (mark.column + 1)

/-- The words for a place behind other words; none for the start. -/
def suffix (mark : Mark) : String := if mark.isStart then "" else " at " ++ mark.words

end Mark

/-- What can be wrong. -/
inductive Problem where
  | noColon
  | badStart
  | entryNotAllowed
  | keyNotAllowed
  | valueNotAllowed
  | unknownDirective
  | noLineEnd
  | noDirectiveName
  | directiveNameSign
  | noDot
  | longVersion
  | noVersion
  | noSpace
  | noSpaceOrLineEnd
  | anchorSign
  | noTagEnd
  | noTagMark
  | noTagText
  | noOctet
  | badLeadOctet
  | badTrailOctet
  | zeroIndent
  | tabInIndent
  | documentInScalar
  | endInScalar
  | badEscape
  | badHex
  | badCodePoint
  | colonInPlain
  | tabInPlain
  | noDocumentStart
  | noContent
  | noEntry
  | noKey
  | noCommaInList
  | noCommaInMap
  | unknownHandle
  | repeatedVersion
  | wrongVersion
  | repeatedHandle
deriving Repr, DecidableEq

namespace Problem

/-- The words for what is wrong. -/
def words : Problem → String
  | noColon => "could not find expected ':'"
  | badStart => "found character that cannot start any token"
  | entryNotAllowed => "block sequence entries are not allowed in this context"
  | keyNotAllowed => "mapping keys are not allowed in this context"
  | valueNotAllowed => "mapping values are not allowed in this context"
  | unknownDirective => "found unknown directive name"
  | noLineEnd => "did not find expected comment or line break"
  | noDirectiveName => "could not find expected directive name"
  | directiveNameSign => "found unexpected non-alphabetical character"
  | noDot => "did not find expected digit or '.' character"
  | longVersion => "found extremely long version number"
  | noVersion => "did not find expected version number"
  | noSpace => "did not find expected whitespace"
  | noSpaceOrLineEnd => "did not find expected whitespace or line break"
  | anchorSign => "did not find expected alphabetic or numeric character"
  | noTagEnd => "did not find the expected '>'"
  | noTagMark => "did not find expected '!'"
  | noTagText => "did not find expected tag URI"
  | noOctet => "did not find URI escaped octet"
  | badLeadOctet => "found an incorrect leading UTF-8 octet"
  | badTrailOctet => "found an incorrect trailing UTF-8 octet"
  | zeroIndent => "found an indentation indicator equal to 0"
  | tabInIndent => "found a tab character where an indentation space is expected"
  | documentInScalar => "found unexpected document indicator"
  | endInScalar => "found unexpected end of stream"
  | badEscape => "found unknown escape character"
  | badHex => "did not find expected hexdecimal number"
  | badCodePoint => "found invalid Unicode character escape code"
  | colonInPlain => "found unexpected ':'"
  | tabInPlain => "found a tab character that violates indentation"
  | noDocumentStart => "did not find expected <document start>"
  | noContent => "did not find expected node content"
  | noEntry => "did not find expected '-' indicator"
  | noKey => "did not find expected key"
  | noCommaInList => "did not find expected ',' or ']'"
  | noCommaInMap => "did not find expected ',' or '\x7d'"
  | unknownHandle => "found undefined tag handle"
  | repeatedVersion => "found duplicate %YAML directive"
  | wrongVersion => "found incompatible YAML document"
  | repeatedHandle => "found duplicate %TAG directive"

end Problem

/-- What can be read when something is wrong. -/
inductive Context where
  | simpleKey
  | nextToken
  | directive
  | versionDirective
  | handleDirective
  | handleDirectiveText
  | handleInDirective
  | handleInDirectiveText
  | anchor
  | reference
  | tag
  | tagText
  | blockScalar
  | quotedScalar
  | quotedText
  | plainScalar
  | node
  | blockNode
  | flowNode
  | blockCollection
  | blockMapping
  | flowSequence
  | flowMapping
deriving Repr, DecidableEq

namespace Context

/-- The words for what was being read. -/
def words : Context → String
  | simpleKey => "while scanning a simple key"
  | nextToken => "while scanning for the next token"
  | directive => "while scanning a directive"
  | versionDirective => "while scanning a %YAML directive"
  | handleDirective => "while scanning a %TAG directive"
  | handleDirectiveText => "while parsing a %TAG directive"
  | handleInDirective => "while scanning a tag directive"
  | handleInDirectiveText => "while parsing a tag directive"
  | anchor => "while scanning an anchor"
  | reference => "while scanning an alias"
  | tag => "while scanning a tag"
  | tagText => "while parsing a tag"
  | blockScalar => "while scanning a block scalar"
  | quotedScalar => "while scanning a quoted scalar"
  | quotedText => "while parsing a quoted scalar"
  | plainScalar => "while scanning a plain scalar"
  | node => "while parsing a node"
  | blockNode => "while parsing a block node"
  | flowNode => "while parsing a flow node"
  | blockCollection => "while parsing a block collection"
  | blockMapping => "while parsing a block mapping"
  | flowSequence => "while parsing a flow sequence"
  | flowMapping => "while parsing a flow mapping"

end Context

/-- A fault in a text. -/
inductive YamlFault where
  /-- A character that may not stand in a text, known by the number of bytes before it. -/
  | control (offset : Nat)
  /-- Something is wrong at a place, while something that started at another was being read. -/
  | problem (problem : Problem) (mark : Mark) (context : Option (Context × Mark))
deriving Repr, DecidableEq

namespace YamlFault

/-- The wording of a fault. The start of what was being read is named only if it differs from the
place of the fault. -/
def message : YamlFault → String
  | control offset =>
    "control characters are not allowed" ++
      (if offset = 0 then "" else " at position " ++ toString offset)
  | problem cause mark context =>
    let behind :=
      match context with
      | none => ""
      | some (read, start) =>
        let same := start.line == mark.line && start.column == mark.column
        ", " ++ read.words ++ (if same then "" else start.suffix)
    cause.words ++ mark.suffix ++ behind

end YamlFault

end TagAudit.Yaml
