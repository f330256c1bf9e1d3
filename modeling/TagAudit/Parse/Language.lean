/-
**The language to be read.**

What the parser needs to know of a language: the table of its states, the texts of its tokens, and
for each state what is looked for.

* `Language.ofRules` prepares the rules of a grammar;
* `python` is the language of the sources that are audited.
-/

import TagAudit.Grammar.Rules
import TagAudit.Lexical.Mode
import TagAudit.Source.Layout
import TagAudit.Source.Token

namespace TagAudit.Parse

open Grammar Lexical Source

/-- The terminal of a token of the layout. -/
def layoutTerminal : LayoutToken → Terminal
  | .newline => .newline
  | .indent => .indent
  | .dedent => .dedent
  | .stringStart => .stringStart
  | .stringContent => .stringContent
  | .escapedBrace => .escapedBrace
  | .stringEnd => .stringEnd

/-- A language prepared for reading. -/
structure Language where
  table : ParseTable
  lexicon : Lexicon
  /-- What is looked for in each state. -/
  modes : Array Mode
  /-- What each state expects of the layout. -/
  demands : Array LayoutDemand
  /-- The number of a token of the layout. -/
  layoutNumber : LayoutToken → Nat

namespace Language

/-- What a set of tokens asks of the layout. -/
def demandOf (terminals : List Terminal) (tokens : TokenSet) : LayoutDemand :=
  let has (terminal : Terminal) : Bool := tokens.contains (terminals.idxOf terminal)
  { newline := has .newline
    indent := has .indent
    dedent := has .dedent
    stringStart := has .stringStart
    stringContent := has .stringContent
    escapedBrace := has .escapedBrace
    inBrackets := has (.literal ")") || has (.literal "]") || has (.literal "\x7d")
    handler := has (.literal "except") }

/-- The language of some rules. -/
def ofRules (defs : List RuleDef) : Language :=
  let table := ParseTable.ofRules defs
  let terminals := table.grammar.terminals.toList
  let modes := Modes.ofTable table
  { table := table
    lexicon := Lexicon.ofTerminals terminals table.machine modes.vocabularies
    modes := modes.modes
    demands := table.states.map fun state => demandOf terminals state.tokens
    layoutNumber := fun token => terminals.idxOf (layoutTerminal token) }

variable (language : Language)

/-- How many terminals there are. -/
def terminalCount : Nat := language.table.grammar.ruleStart

/-- The actions of a state for a symbol. -/
def actions (state : Nat) (symbol : Nat) : List Action :=
  match language.table.states[state]? with
  | some found => found.actionsFor symbol
  | none => []

/-- The state reached by reading a symbol, 0 if it cannot come. -/
def target (state symbol : Nat) : Nat :=
  if symbol < language.terminalCount then
    match (language.actions state symbol).getLast? with
    | some (.shift target _) => target
    | some .shiftExtra => state
    | _ => 0
  else
    match language.table.states[state]? with
    | some found => found.targets.getD (symbol - language.terminalCount) 0
    | none => 0

/-- What is looked for in a state. -/
def mode (state : Nat) : Mode := language.modes.getD state default

/-- Whether a keyword can be no name in a state. -/
def isReserved (state symbol : Nat) : Bool :=
  (language.mode state).reserved && language.lexicon.reserved.contains symbol

end Language

/-- The language of the sources that are audited. -/
def python : Language := Language.ofRules ruleDefs

end TagAudit.Parse
