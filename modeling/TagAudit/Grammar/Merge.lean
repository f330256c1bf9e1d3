/-
**Merging states.**

States with the same items differ only in what may follow. They are merged as long as no token
is treated differently: neither by two actions that disagree, nor by an action in one of them for
a token that hides one that the other expects. States that do nothing but turn a single hidden
part into another are passed over.

* `splitOff` keeps of a group what agrees with its first members;
* `mergeStates` groups the states and puts one state in place of each group;
* `skipUnits` passes over states that do nothing of interest;
* `errorState` is the state for tokens that fit nowhere;
* `ParseTable.ofRules` is the whole way from rules to states.
-/

import TagAudit.Grammar.Automaton
import TagAudit.Lexical.Clash

namespace TagAudit.Grammar

open Lexical

/-! ### Groups -/

/-- Splits a list: a member stays if it differs from no earlier member that stays. -/
def splitOff (differs : Nat → Nat → Bool) : List Nat → List Nat × List Nat
  | [] => ([], [])
  | first :: rest =>
    let leaving := rest.filter (differs first)
    let (kept, others) := splitOff differs (rest.filter fun other => !differs first other)
    (first :: kept, leaving ++ others)
termination_by members => members.length
decreasing_by
  rw [List.length_cons, List.length_unattach]
  refine Nat.lt_succ_of_le (Nat.le_trans (List.length_filter_le _ _) ?_)
  exact Nat.le_of_eq List.length_attach

/-- States in groups: the members of each group, and the group of each state. -/
structure Grouping where
  members : Array (List Nat)
  groupOf : Array Nat

namespace Grouping

/-- The grouping by cores, which are numbered from 0. -/
def byCore (cores : Array Nat) : Grouping :=
  let count := cores.foldl max 0 + 1
  let members := (cores.foldl (fun (groups, state) core =>
    (groups.modify core (state :: ·), state + 1)) (Array.replicate count ([] : List Nat), 0)).1
  ⟨members.map List.reverse, cores⟩

/-- Splits the groups from some number on, those that come up on the way included, and tells
whether there was anything to split. -/
def splitFrom (differs : Array Nat → Nat → Nat → Bool) (fuel group : Nat) (grouping : Grouping)
    (changed : Bool) : Grouping × Bool :=
  match fuel with
  | 0 => (grouping, changed)
  | fuel + 1 =>
    match grouping.members[group]? with
    | none => (grouping, changed)
    | some members =>
      let (kept, leaving) := splitOff (differs grouping.groupOf) members
      if leaving.isEmpty then splitFrom differs fuel (group + 1) grouping changed
      else
        let fresh := grouping.members.size
        let grouping : Grouping :=
          { members := (grouping.members.setIfInBounds group kept).push leaving
            groupOf := leaving.foldl (fun groups state => groups.setIfInBounds state fresh)
              grouping.groupOf }
        splitFrom differs fuel (group + 1) grouping true

/-- Splits all groups once. -/
def split (differs : Array Nat → Nat → Nat → Bool) (grouping : Grouping) : Grouping × Bool :=
  splitFrom differs (grouping.groupOf.size + 1) 0 grouping false

end Grouping

/-! ### When states differ -/

/-- Whether two lists of actions differ, states of one group counting as one. -/
def actionsDiffer (groupOf : Array Nat) : List Action → List Action → Bool
  | [], [] => false
  | .shift first repeats :: rest, .shift second repeats' :: others =>
    groupOf.getD first 0 != groupOf.getD second 0 || repeats != repeats' ||
      actionsDiffer groupOf rest others
  | first :: rest, second :: others => first != second || actionsDiffer groupOf rest others
  | [], _ :: _ | _ :: _, [] => true

/-- What is needed to compare states. -/
structure Comparison where
  states : Array ParseState
  tokens : Array TokenSet
  /-- The tokens that each token hides. -/
  hidden : Array TokenSet
  layout : TokenSet

namespace Comparison

/-- Whether an action for a token does harm in a state that expects certain tokens. -/
def clashes (comparison : Comparison) (expected : TokenSet) (token : Nat) : Bool :=
  comparison.layout.contains token ||
    !((comparison.hidden.getD token .empty).inter expected).isEmpty

/-- Whether two states treat some token differently. -/
def disagree (comparison : Comparison) (groupOf : Array Nat) (first second : Nat) : Bool :=
  let firstTokens := comparison.tokens.getD first .empty
  let secondTokens := comparison.tokens.getD second .empty
  let firstState := comparison.states.getD first default
  let secondState := comparison.states.getD second default
  (firstTokens.diff secondTokens).any (comparison.clashes secondTokens) ||
    (secondTokens.diff firstTokens).any (comparison.clashes firstTokens) ||
    (firstTokens.inter secondTokens).any fun token =>
      actionsDiffer groupOf (firstState.actionsFor token) (secondState.actionsFor token)

/-- Whether reading some symbol leads from two states to different groups. -/
def diverge (comparison : Comparison) (groupOf : Array Nat) (first second : Nat) : Bool :=
  let firstState := comparison.states.getD first default
  let secondState := comparison.states.getD second default
  let shared := (comparison.tokens.getD first .empty).inter (comparison.tokens.getD second .empty)
  (shared.any fun token =>
    match (firstState.actionsFor token).getLast?, (secondState.actionsFor token).getLast? with
    | some (.shift one _), some (.shift other _) => groupOf.getD one 0 != groupOf.getD other 0
    | _, _ => false) ||
  Nat.any firstState.targets.size fun index _ =>
    let one := firstState.targets.getD index 0
    let other := secondState.targets.getD index 0
    one != 0 && other != 0 && groupOf.getD one 0 != groupOf.getD other 0

end Comparison

/-! ### One state for each group -/

/-- The action with the group in place of the state it leads to. -/
def Action.redirect (groupOf : Nat → Nat) : Action → Action
  | .shift target repeats => .shift (groupOf target) repeats
  | action => action

/-- The state that acts like each of the given ones. -/
def joinStates (states : List ParseState) : ParseState :=
  match states with
  | [] => default
  | first :: rest => rest.foldl (fun joined state =>
      { actions := joined.actions.zipWith
          (fun kept other => if kept.isEmpty then other else kept) state.actions
        targets := joined.targets.zipWith
          (fun kept other => if kept == 0 then other else kept) state.targets
        expectsWord := joined.expectsWord || state.expectsWord }) first

/-- The state with other numbers for the states it leads to. -/
def ParseState.redirect (number : Nat → Nat) (state : ParseState) : ParseState :=
  { state with
    actions := state.actions.map fun actions => actions.map (·.redirect number)
    targets := state.targets.map fun target => if target == 0 then 0 else number target }

/-- How often the groups are split again at most. -/
def splitLimit : Nat := 1000

/-- The tokens that each token hides, names and keywords apart: a word is first read as a name. -/
def hiddenTokens (grammar : NumberedGrammar) (clashes : ClashTable) : Array TokenSet :=
  let keywords := grammar.tokensWith Terminal.isKeyword
  (Array.range grammar.ruleStart).map fun token =>
    let hidden := clashes.hides token
    if token = wordToken then hidden.diff keywords
    else if keywords.contains token then hidden.erase wordToken
    else hidden

/-- One state for each group of states that agree. -/
def mergeStates (grammar : NumberedGrammar) (clashes : ClashTable) (states : Array ParseState)
    (cores : Array Nat) : Array ParseState :=
  let comparison : Comparison :=
    { states := states
      tokens := states.map (·.tokens)
      hidden := hiddenTokens grammar clashes
      layout := grammar.tokensWith Terminal.concernsLayout }
  let (grouping, _) := (Grouping.byCore cores).split comparison.disagree
  let grouping := settle (Grouping.split comparison.diverge) splitLimit grouping
  grouping.members.map fun members =>
    (joinStates (members.map fun state => states.getD state default)).redirect
      fun state => grouping.groupOf.getD state 0

/-! ### Units -/

/-- The rule to which a state turns a single part, if it does nothing else and the rule is hidden
and carries no marks. -/
def unitRule? (grammar : NumberedGrammar) (shapes : Array Shape) (disguised : List Nat)
    (state : ParseState) : Option Nat :=
  let actions := state.actions.toList.flatten.filter (· != .shiftExtra)
  let plain (rule shape : Nat) : Bool :=
    (grammar.ruleKind? rule == some .hidden || grammar.ruleKind? rule == some .repetition) &&
      !disguised.contains rule &&
      (shapes.getD shape []).all fun (guise, field) => guise.isNone && field.isNone
  match actions with
  | .reduce rule _ _ _ :: _ =>
    let isUnit : Action → Bool
      | .reduce other 1 0 shape => other == rule && plain rule shape
      | _ => false
    if actions.all isUnit then some rule else none
  | _ => none

/-- The state reached in place of one that only turns a single part into another. -/
def skipUnit (units : Array (Option Nat)) (targetOf : Nat → Nat) : Nat → Nat → Nat
  | 0, state => state
  | fuel + 1, state =>
    match units.getD state none with
    | none => state
    | some rule =>
      let next := targetOf rule
      if next == 0 || next == state then state else skipUnit units targetOf fuel next

/-- The states with those passed over that only turn a single part into another. -/
def skipUnits (grammar : NumberedGrammar) (shapes : Array Shape) (states : Array ParseState) :
    Array ParseState :=
  let disguised := (grammar.productions.toList.flatMap fun production =>
    (production.steps.filter (·.guise.isSome)).map (·.symbol)).eraseDups
  let units := states.map (unitRule? grammar shapes disguised)
  states.map fun state =>
    let targetOf rule := state.targets.getD (rule - grammar.ruleStart) 0
    state.redirect (skipUnit units targetOf grammar.rules.size)

/-! ### The table -/

/-- The states of a parser: state 0 is for tokens that fit nowhere, state 1 is the start. -/
structure ParseTable where
  grammar : NumberedGrammar
  symbols : Array SymbolInfo
  shapes : Array Shape
  states : Array ParseState
  /-- The forms of the tokens and how they clash. -/
  machine : TokenMachine
  clashes : ClashTable
  /-- The tokens that some state expects beside each token. -/
  beside : Array TokenSet

/-- The tokens that some state expects beside each token. -/
def tokensBeside (grammar : NumberedGrammar) (states : Array ParseState) : Array TokenSet :=
  states.foldl (fun beside state =>
    let tokens := state.tokens
    tokens.toList.foldl (fun beside token => beside.modify token (·.union tokens)) beside)
    (Array.replicate grammar.ruleStart .empty)

/-- The tokens that are looked for after an error. A token that is a longer form of others is left
out if it hides one that is not and no state expects both. -/
def tokensAfterError (grammar : NumberedGrammar) (clashes : ClashTable) (beside : Array TokenSet) :
    TokenSet :=
  let tokens := grammar.tokensWith fun terminal => (formOf? terminal).isSome
  let keywords := grammar.tokensWith Terminal.isKeyword
  let apart (token : Nat) : TokenSet := (tokens.diff (beside.getD token .empty)).erase token
  let plain := TokenSet.ofList (tokens.toList.filter fun token =>
    !(apart token).any (clashes.outlasts token))
  let leftOut (token : Nat) : Bool :=
    !plain.contains token && !keywords.contains token && token != wordToken &&
      !(((clashes.hides token).inter plain).inter (apart token)).isEmpty
  TokenSet.ofList (tokens.toList.filter (!leftOut ·))

/-- The state for tokens that fit nowhere: a token is taken as part of an error, and what may stand
anywhere may stand here too. -/
def errorState (grammar : NumberedGrammar) (clashes : ClashTable) (beside : Array TokenSet) :
    ParseState :=
  let tokens := tokensAfterError grammar clashes beside
  { actions := grammar.terminals.mapIdx fun token terminal =>
      if terminal.isExtra then [.shiftExtra]
      else if terminal.isLayout || terminal == .endOfSource || tokens.contains token then
        [.recover]
      else []
    targets := Array.replicate grammar.rules.size 0
    expectsWord := false }

/-- The table for a list of rules. -/
def ParseTable.ofRules (defs : List RuleDef) : ParseTable :=
  let grammar := NumberedGrammar.ofRules defs
  let items := ItemTable.ofGrammar grammar
  let machine := TokenMachine.ofTerminals grammar.terminals.toList
  let clashes := ClashTable.ofGrammar grammar items.firsts machine
  let (states, cores) := Automaton.ofGrammar grammar items
  let beside := tokensBeside grammar states
  let merged := skipUnits grammar items.shapes (mergeStates grammar clashes states cores)
  { grammar := grammar
    symbols := (Array.range grammar.symbolCount).map grammar.symbolInfo
    shapes := items.shapes
    states := merged.setIfInBounds 0 (errorState grammar clashes beside)
    machine := machine
    clashes := clashes
    beside := beside }

end TagAudit.Grammar
