/-
**The states of a grammar.**

A state is a set of items with the tokens that can follow each of them. Starting from the item
for a whole source, reading a symbol leads from state to state. Where a state could both end a
production and read on, or end two of them, levels and sides decide; what they leave open is
followed side by side.

* `Automaton.settleActions` decides between the actions for one token;
* `Automaton.ofGrammar` lists all states, each with the number of its core: states with the same
  items have the same core, whatever may follow.
-/

import TagAudit.Grammar.Action
import TagAudit.Grammar.Item
import Std.Data.HashMap

namespace TagAudit.Grammar

open ItemTable

/-- What is known of the productions that end before a token: their level and the sides they
prefer. -/
structure EndInfo where
  level : Int
  left : Bool
  right : Bool
  neither : Bool
deriving Inhabited

namespace EndInfo

/-- Nothing is known yet. -/
def none : EndInfo := ⟨0, false, false, false⟩

/-- One more production that ends here. -/
def add (info : EndInfo) (item : Item) : EndInfo :=
  match item.side with
  | some .left => { info with level := item.level, left := true }
  | some .right => { info with level := item.level, right := true }
  | .none => { info with level := item.level, neither := true }

end EndInfo

/-- What the items of a state ask for. -/
structure Demands where
  /-- The ends of productions by token, and what is known of them. -/
  ends : Array (List Action)
  infos : Array EndInfo
  /-- The items to go on with by symbol. -/
  moves : Array (List KernelItem)
  expectsWord : Bool

/-- Puts an item among others in order, joining what can follow it. -/
def insertKernel (entry : KernelItem) : List KernelItem → List KernelItem
  | [] => [entry]
  | first :: rest =>
    if entry.item < first.item then entry :: first :: rest
    else if entry.item = first.item then ⟨first.item, first.ahead.union entry.ahead⟩ :: rest
    else first :: insertKernel entry rest

namespace Demands

/-- A production that ends before a token. A higher level drives out what is there, a lower one
comes to nothing. -/
def addEnd (item : Item) (action : Action) (demands : Demands) (token : Nat) : Demands :=
  let present := demands.ends.getD token []
  let info := demands.infos.getD token .none
  if present.isEmpty || info.level < item.level then
    { demands with
      ends := demands.ends.setIfInBounds token [action]
      infos := demands.infos.setIfInBounds token (EndInfo.none.add item) }
  else if info.level = item.level then
    { demands with
      ends := demands.ends.setIfInBounds token (present ++ [action])
      infos := demands.infos.setIfInBounds token (info.add item) }
  else demands

/-- What one item asks for. -/
def addItem (symbolCount : Nat) (demands : Demands) (entry : Item × TokenSet) : Demands :=
  let (item, ahead) := entry
  match item.next with
  | some next =>
    { demands with
      moves := demands.moves.modify next (insertKernel ⟨item.successor, ahead⟩)
      expectsWord := demands.expectsWord || next == wordToken }
  | none =>
    let action :=
      if item.rule = symbolCount then .accept
      else .reduce item.rule item.dot item.weight item.shape
    let demands := { demands with
      expectsWord := demands.expectsWord || ahead.contains wordToken }
    ahead.toList.foldl (addEnd item action) demands

end Demands

/-- The states found so far. -/
structure Automaton where
  kernels : Array (List KernelItem)
  numbers : Std.HashMap (List KernelItem) Nat
  /-- The core of each state. -/
  cores : Array Nat
  coreNumbers : Std.HashMap (List Nat) Nat

namespace Automaton

/-- The number of the state with some items. -/
def numberOf (kernel : List KernelItem) (automaton : Automaton) : Nat × Automaton :=
  match automaton.numbers[kernel]? with
  | some number => (number, automaton)
  | none =>
    let number := automaton.kernels.size
    let items := kernel.map (·.item)
    let (core, coreNumbers) :=
      match automaton.coreNumbers[items]? with
      | some core => (core, automaton.coreNumbers)
      | none =>
        let core := automaton.coreNumbers.size + 1
        (core, automaton.coreNumbers.insert items core)
    (number,
      { kernels := automaton.kernels.push kernel
        numbers := automaton.numbers.insert kernel number
        cores := automaton.cores.push core
        coreNumbers := coreNumbers })

/-- The items of a state that speak for an action on a token: those inside of which the token can
come next, with their levels, and those that can end before it. -/
def speakers (firsts : Array TokenSet) (entries : List (Item × TokenSet)) (token : Nat) :
    List Item × List Item :=
  let inside := entries.filter fun (item, _) =>
    match item.next with
    | some next => item.dot != 0 && (firsts.getD next .empty).contains token
    | none => false
  let ending := entries.filter fun (item, ahead) => item.next.isNone && ahead.contains token
  (inside.map (·.1), ending.map (·.1))

/-- Decides between ending a production before a token and reading on. If only one repetition
speaks for both, the shift is kept as one that repeats. Otherwise the higher level wins; between
equal levels the side decides if all agree on one. -/
def settleActions (grammar : NumberedGrammar) (firsts : Array TokenSet)
    (entries : List (Item × TokenSet)) (info : EndInfo) (token : Nat) (ends : List Action)
    (target : Nat) : List Action :=
  let (inside, ending) := speakers firsts entries token
  let rules := ((inside ++ ending).map (·.rule)).filter (· != grammar.symbolCount)
  let shift := Action.shift target false
  match rules.eraseDups with
  | [rule] =>
    if grammar.isRepetition rule then ends ++ [.shift target true]
    else decideBy inside shift
  | _ => decideBy inside shift
where
  /-- The decision by levels and sides. -/
  decideBy (inside : List Item) (shift : Action) : List Action :=
    let more := inside.any fun item => info.level < item.level
    let less := inside.any fun item => item.level < info.level
    if more && !less then [shift]
    else if less && !more then ends
    else if !less && !more && info.left && !info.neither && !info.right then ends
    else if !less && !more && !info.left && !info.neither && info.right then [shift]
    else ends ++ [shift]

/-- Adds the way to another state to the actions for a token. -/
def addShift (grammar : NumberedGrammar) (firsts : Array TokenSet)
    (entries : List (Item × TokenSet)) (demands : Demands)
    (found : Array (List Action) × Automaton) (token : Nat) : Array (List Action) × Automaton :=
  match demands.moves.getD token [] with
  | [] => found
  | kernel =>
    let (actions, automaton) := found
    let (target, automaton) := automaton.numberOf kernel
    let ends := demands.ends.getD token []
    let settled :=
      if ends.isEmpty then [Action.shift target false]
      else settleActions grammar firsts entries (demands.infos.getD token .none) token ends target
    (actions.setIfInBounds token settled, automaton)

/-- The actions of a state. -/
def stateOf (grammar : NumberedGrammar) (table : ItemTable) (kernel : List KernelItem)
    (extras : List Nat) (tokenOrder : List Nat) (automaton : Automaton) :
    ParseState × Automaton :=
  let sets := table.closure kernel
  let entries := ((table.items.zip sets).filter fun (_, ahead) => !ahead.isEmpty).toList
  let demands := entries.foldl (Demands.addItem grammar.symbolCount)
    { ends := Array.replicate grammar.ruleStart []
      infos := Array.replicate grammar.ruleStart .none
      moves := Array.replicate grammar.symbolCount []
      expectsWord := false }
  let (actions, automaton) :=
    tokenOrder.foldl (addShift grammar table.firsts entries demands) (demands.ends, automaton)
  let (targets, automaton) := (List.range grammar.rules.size).foldl
    (fun (targets, automaton) index =>
      match demands.moves.getD (grammar.ruleStart + index) [] with
      | [] => (targets, automaton)
      | kernel =>
        let (target, automaton) := numberOf kernel automaton
        (targets.setIfInBounds index target, automaton))
    (Array.replicate grammar.rules.size 0, automaton)
  let actions := extras.foldl (fun actions token =>
    actions.modify token fun present => if present.isEmpty then [.shiftExtra] else present) actions
  (⟨actions, targets, demands.expectsWord⟩, automaton)

/-- How many states there may be. -/
def stateLimit : Nat := 20000

/-- The states from some number on, as many as the fuel allows. -/
def collect (grammar : NumberedGrammar) (table : ItemTable) (extras tokenOrder : List Nat)
    (fuel : Nat) (states : Array ParseState) (automaton : Automaton) :
    Array ParseState × Automaton :=
  match fuel with
  | 0 => (states, automaton)
  | fuel + 1 =>
    match automaton.kernels[states.size]? with
    | none => (states, automaton)
    | some kernel =>
      let (state, automaton) := stateOf grammar table kernel extras tokenOrder automaton
      collect grammar table extras tokenOrder fuel (states.push state) automaton

/-- The tokens that may stand anywhere. -/
def extraTokens (grammar : NumberedGrammar) : List Nat :=
  (List.range grammar.ruleStart).filter fun token =>
    grammar.terminals[token]? == some .comment ||
      grammar.terminals[token]? == some .lineContinuation

/-- All states of a grammar and their cores; the state 0 is left without actions. -/
def ofGrammar (grammar : NumberedGrammar) (table : ItemTable) :
    Array ParseState × Array Nat :=
  let tokenOrder := (List.range grammar.ruleStart).mergeSort fun first second =>
    grammar.symbolRank first ≤ grammar.symbolRank second
  let blank : ParseState :=
    ⟨Array.replicate grammar.ruleStart [], Array.replicate grammar.rules.size 0, false⟩
  let (_, automaton) := numberOf [⟨table.start, TokenSet.singleton 0⟩]
    ⟨#[[]], ∅, #[0], ∅⟩
  let (states, automaton) :=
    collect grammar table (extraTokens grammar) tokenOrder stateLimit #[blank] automaton
  -- An empty source is a whole source.
  let states := states.modify 1 fun start =>
    { start with actions := start.actions.setIfInBounds 0 [.reduce grammar.ruleStart 0 0 0] }
  (states, automaton.cores)

end Automaton

end TagAudit.Grammar
