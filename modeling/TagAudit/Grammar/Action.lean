/-
**Actions and states of a parser.**

A state tells for every token what to do when it comes next, and for every rule where to go once
the rule has been read. Several actions for one token are readings that are followed side by
side.

* `Action` is what can be done with a token;
* `ParseState` is a state.
-/

import TagAudit.Grammar.Numbered
import TagAudit.Grammar.TokenSet

namespace TagAudit.Grammar

/-- What to do when a token comes next. -/
inductive Action where
  /-- Reads the token and goes to another state. A shift that `repeats` only leads to another way
  of grouping a repetition and is not followed. -/
  | shift (target : Nat) (repeats : Bool)
  /-- Reads the token without leaving the state. -/
  | shiftExtra
  /-- Takes a number of parts as a node of a rule. -/
  | reduce (rule count : Nat) (weight : Int) (shape : Nat)
  /-- The source has been read. -/
  | accept
  /-- The token is taken as part of an error. -/
  | recover
deriving DecidableEq, Inhabited, Repr

/-- A state of the parser. -/
structure ParseState where
  /-- The actions by token. -/
  actions : Array (List Action)
  /-- The next states by rule, counted from the first rule; 0 where the rule cannot come. -/
  targets : Array Nat
  /-- Whether a name can come in this state, so that reserved words have to be kept apart. -/
  expectsWord : Bool
deriving Inhabited

namespace ParseState

/-- The tokens for which the state has an action. -/
def tokens (state : ParseState) : TokenSet :=
  (state.actions.foldl (fun (set, token) actions =>
    (if actions.isEmpty then set else set.insert token, token + 1)) (TokenSet.empty, 0)).1

/-- The actions for a token. -/
def actionsFor (state : ParseState) (token : Nat) : List Action := state.actions.getD token []

end ParseState

end TagAudit.Grammar
