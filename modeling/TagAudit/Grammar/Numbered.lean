/-
**The grammar in numbers.**

Symbols are numbered: first the terminals in their order, then the rules in theirs. Productions
speak about numbers only, and a symbol tells how its nodes appear.

* `NumberedGrammar.ofRules` numbers the productions of a list of rules;
* `NumberedGrammar.symbol` tells kind and visibility of a symbol's nodes.
-/

import TagAudit.Grammar.Production

namespace TagAudit.Grammar

/-- How the nodes of a symbol appear. -/
structure SymbolInfo where
  kind : String
  visible : Bool
  /-- A named node is more than a keyword or sign. -/
  named : Bool
deriving Inhabited, Repr

/-- A step of a production with its symbol as a number. -/
structure NumberedStep where
  symbol : Nat
  level : Option Int
  side : Option Side
  guise : Option Guise
  field : Option String
deriving DecidableEq, Repr

/-- The marks that the steps of a production put on the parts of its node. -/
abbrev Shape := List (Option Guise × Option String)

/-- A production of a rule. -/
structure NumberedProduction where
  rule : Nat
  steps : List NumberedStep
  weight : Int
deriving Repr

/-- The marks of a production's steps. -/
def NumberedProduction.shape (production : NumberedProduction) : Shape :=
  production.steps.map fun step => (step.guise, step.field)

/-- A grammar with numbers for its symbols. -/
structure NumberedGrammar where
  terminals : Array Terminal
  /-- The kinds of the rules, which are numbered after the terminals. -/
  rules : Array (String × RuleKind)
  /-- The productions that read at least one symbol. -/
  productions : Array NumberedProduction

/-- The number of the token for names. -/
def wordToken : Nat := terminalOrder.idxOf .word

namespace NumberedGrammar

/-- How the tokens of a terminal appear. The marks of the layout and the bare text of strings
have no nodes of their own. -/
def terminalInfo : Terminal → SymbolInfo
  | .endOfSource => ⟨"end", false, true⟩
  | .word => ⟨"identifier", true, true⟩
  | .literal "..." => ⟨"ellipsis", true, true⟩
  | .literal "True" => ⟨"true", true, true⟩
  | .literal "False" => ⟨"false", true, true⟩
  | .literal "None" => ⟨"none", true, true⟩
  | .literal text => ⟨text, true, false⟩
  | .escapeSequence => ⟨"escapeSequence", true, true⟩
  | .bareBackslash => ⟨"bareBackslash", false, true⟩
  | .formatText => ⟨"formatText", false, false⟩
  | .conversion => ⟨"conversion", true, true⟩
  | .handlerStar => ⟨"*", true, false⟩
  | .integer => ⟨"integer", true, true⟩
  | .float => ⟨"float", true, true⟩
  | .comment => ⟨"comment", true, true⟩
  | .lineContinuation => ⟨"lineContinuation", true, true⟩
  | .newline => ⟨"newline", false, true⟩
  | .indent => ⟨"indent", false, true⟩
  | .dedent => ⟨"dedent", false, true⟩
  | .stringStart => ⟨"stringStart", true, true⟩
  | .stringContent => ⟨"stringText", false, true⟩
  | .escapedBrace => ⟨"escapedBrace", true, true⟩
  | .stringEnd => ⟨"stringEnd", true, true⟩

/-- How the nodes of a rule appear. -/
def ruleInfo (name : String) (kind : RuleKind) : SymbolInfo :=
  ⟨name, kind == .shown, kind != .repetition⟩

/-- The number of the first rule. -/
def ruleStart (grammar : NumberedGrammar) : Nat := grammar.terminals.size

/-- How many symbols there are. -/
def symbolCount (grammar : NumberedGrammar) : Nat := grammar.terminals.size + grammar.rules.size

/-- Whether a number stands for a rule. -/
def isRule (grammar : NumberedGrammar) (symbol : Nat) : Bool := grammar.ruleStart ≤ symbol

/-- The way in which a rule appears. -/
def ruleKind? (grammar : NumberedGrammar) (symbol : Nat) : Option RuleKind :=
  if symbol < grammar.ruleStart then none
  else grammar.rules[symbol - grammar.ruleStart]?.map (·.2)

/-- Whether a number stands for a rule without nodes of its own. -/
def isHiddenRule (grammar : NumberedGrammar) (symbol : Nat) : Bool :=
  match grammar.ruleKind? symbol with
  | none => false
  | some kind => kind != .shown

/-- Whether a number stands for a repetition. -/
def isRepetition (grammar : NumberedGrammar) (symbol : Nat) : Bool :=
  grammar.ruleKind? symbol == some .repetition

/-- How the nodes of a symbol appear. -/
def symbolInfo (grammar : NumberedGrammar) (symbol : Nat) : SymbolInfo :=
  match grammar.terminals[symbol]? with
  | some terminal => terminalInfo terminal
  | none =>
    match grammar.rules[symbol - grammar.ruleStart]? with
    | some (name, kind) => ruleInfo name kind
    | none => ⟨"", false, false⟩

/-- The numbers of the symbols of some rules. -/
def numberOf (terminals : List Terminal) (names : List String) : SymbolRef → Nat
  | .terminal terminal => terminals.idxOf terminal
  | .rule name => terminals.length + names.idxOf name

/-- The rules with numbers for their symbols. A production that reads nothing is left out: only a
whole source may be empty. -/
def ofRules (defs : List RuleDef) : NumberedGrammar :=
  let rules := productionsOf defs
  let number := numberOf terminalOrder (rules.map (·.name))
  let numberedStep (step : Step) : NumberedStep :=
    ⟨number step.symbol, step.level, step.side, step.guise, step.field⟩
  let used := rules.filter (·.kind != .inlined)
  let productions := used.flatMap fun rule =>
    (rule.productions.filter (!·.steps.isEmpty)).map fun production =>
      (⟨number (.rule rule.name), production.steps.map numberedStep, production.weight⟩ :
        NumberedProduction)
  { terminals := terminalOrder.toArray
    rules := (rules.map fun rule => (rule.name, rule.kind)).toArray
    productions := productions.toArray }

end NumberedGrammar

end TagAudit.Grammar
