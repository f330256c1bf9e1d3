/-
**Grammar rules.**

A grammar gives each rule a name and a body; a body is put together from tokens, references,
sequences, choices and repetitions. Marks on a body tell how conflicts between readings are
settled, under which kind a node is shown, and which role a part plays in the node around it.

* `Terminal` lists the kinds of tokens; `terminalOrder` is the order in which they are numbered;
* `Rule` is a body, `RuleDef` a named rule.
-/

namespace TagAudit.Grammar

/-- The kinds of tokens. -/
inductive Terminal where
  | endOfSource
  /-- A name. -/
  | word
  /-- A keyword or a sign that stands for itself. -/
  | literal (text : String)
  /-- An escape inside a string. -/
  | escapeSequence
  /-- A backslash inside a string that starts no escape. -/
  | bareBackslash
  /-- The text of a format behind a colon in a string. -/
  | formatText
  /-- A conversion mark in a string, such as `!r`. -/
  | conversion
  /-- The star of a handler for groups of exceptions. -/
  | handlerStar
  | integer
  | float
  | comment
  /-- A backslash at the end of a line. -/
  | lineContinuation
  | newline
  | indent
  | dedent
  | stringStart
  | stringContent
  /-- A doubled brace in a string. -/
  | escapedBrace
  | stringEnd
deriving Repr, DecidableEq, Hashable

/-- Which of two readings wins when a rule of some level ends or goes on at a token of the same
level. -/
inductive Side where
  | left
  | right
deriving Repr, DecidableEq, Hashable

/-- The kind under which a node is shown in place of its own. -/
structure Guise where
  kind : String
  named : Bool
deriving Repr, DecidableEq, Hashable

/-- The body of a rule. -/
inductive Rule where
  | blank
  | term (terminal : Terminal)
  | ref (name : String)
  | seq (parts : List Rule)
  | choice (options : List Rule)
  | many1 (part : Rule)
  /-- The level decides between readings, a higher one wins; the side decides between equals. -/
  | level (value : Int) (side : Option Side) (part : Rule)
  /-- Of readings that stay open to the end the heavier one wins. -/
  | weigh (value : Int) (part : Rule)
  | field (name : String) (part : Rule)
  | shown (guise : Guise) (part : Rule)
deriving BEq, Repr

namespace Rule

/-- A keyword or sign. -/
def tok (text : String) : Rule := .term (.literal text)

/-- The part or nothing. -/
def opt (part : Rule) : Rule := .choice [part, .blank]

/-- The part any number of times. -/
def many (part : Rule) : Rule := .choice [.many1 part, .blank]

/-- The part one or more times with a sign in between. -/
def sepBy (sign : String) (part : Rule) : Rule := .seq [part, many (.seq [tok sign, part])]

/-- A level without a side. -/
def atLevel (value : Int) (part : Rule) : Rule := .level value none part

/-- A level at which the reading to the left wins. -/
def leftward (value : Int) (part : Rule) : Rule := .level value (some .left) part

/-- A level at which the reading to the right wins. -/
def rightward (value : Int) (part : Rule) : Rule := .level value (some .right) part

/-- The part shown as a node of another kind. -/
def shownAs (kind : String) (part : Rule) : Rule := .shown ⟨kind, true⟩ part

/-- The part shown as a token with another text. -/
def tokenAs (text : String) (part : Rule) : Rule := .shown ⟨text, false⟩ part

end Rule

/-- How the nodes of a rule appear. -/
inductive RuleKind where
  /-- As nodes of their own. -/
  | shown
  /-- Not at all: their parts belong to the node around them. -/
  | hidden
  /-- Not at all; the rule is a choice between kinds of nodes. -/
  | family
  /-- The rule is replaced by its body wherever it is used. -/
  | inlined
  /-- Not at all; the rule stands for a repetition. -/
  | repetition
deriving Repr, DecidableEq

/-- A named rule. -/
structure RuleDef where
  name : String
  kind : RuleKind
  body : Rule
deriving Repr

/-- The words and signs of the language in the order of their numbers, up to the handlers of
exceptions. -/
def earlyLiterals : List String :=
  [";", "import", ".", "from", "__future__", "(", ")", ",", "as", "*", "print", ">>", "assert",
    ":=", "return", "del", "raise", "pass", "break", "continue", "if", ":", "elif", "else",
    "match", "case", "async", "for", "in", "while", "try", "except"]

/-- The words and signs of the language in the order of their numbers, behind the handlers of
exceptions. -/
def lateLiterals : List String :=
  ["finally", "with", "def", "->", "**", "global", "nonlocal", "exec", "type", "=", "class", "[",
    "]", "@", "-", "_", "|", "\x7b", "\x7d", "+", "not", "and", "or", "/", "%", "//", "&", "^",
    "<<", "~", "is", "<", "<=", "==", "!=", ">=", ">", "<>", "lambda", "+=", "-=", "*=", "/=",
    "@=", "//=", "%=", "**=", ">>=", "<<=", "&=", "^=", "|=", "yield", "..."]

/-- All terminals in the order of their numbers. -/
def terminalOrder : List Terminal :=
  [.endOfSource, .word] ++ earlyLiterals.map .literal ++ [.handlerStar] ++
    lateLiterals.map .literal ++
    [.escapeSequence, .bareBackslash, .formatText, .conversion, .integer, .float,
      .literal "await", .literal "True", .literal "False", .literal "None", .comment,
      .lineContinuation, .newline, .indent, .dedent, .stringStart, .stringContent, .escapedBrace,
      .stringEnd]

/-- The words that can never be names. -/
def reservedWords : List String :=
  ["False", "None", "True", "and", "as", "assert", "async", "await", "break", "class", "continue",
    "def", "del", "elif", "else", "except", "finally", "for", "from", "global", "if", "import",
    "in", "is", "lambda", "nonlocal", "not", "or", "pass", "raise", "return", "try", "while",
    "with", "yield"]

namespace Terminal

/-- Whether a terminal is a word that stands for itself. -/
def isKeyword : Terminal → Bool
  | .literal text => text.all fun c => c.isAlpha || c == '_'
  | _ => false

/-- Whether the layout of the source decides about a terminal. -/
def isLayout : Terminal → Bool
  | .newline | .indent | .dedent | .stringStart | .stringContent | .escapedBrace | .stringEnd =>
    true
  | _ => false

/-- Whether the layout looks at a terminal, be it to leave it to others. -/
def concernsLayout : Terminal → Bool
  | .comment | .literal "]" | .literal ")" | .literal "\x7d" | .literal "except" => true
  | terminal => terminal.isLayout

/-- Whether a terminal may stand anywhere. -/
def isExtra (terminal : Terminal) : Bool :=
  terminal == .comment || terminal == .lineContinuation

/-- Whether a terminal is a word that can never be a name. -/
def isReserved : Terminal → Bool
  | .literal text => reservedWords.contains text
  | _ => false

end Terminal

end TagAudit.Grammar
