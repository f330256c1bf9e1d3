/-
**Modes of reading.**

A state of the parser expects some tokens. States whose tokens are not in each other's way are
read alike: all their tokens are looked for together, and it is left to the parser to refuse one
that does not fit. What is looked for in a state is its mode.

* `mayJoin` decides whether two sets of tokens can be looked for together;
* `formVocabularies` forms the sets, the states with most entries first;
* `Modes.ofTable` gives each state its mode.
-/

import TagAudit.Grammar.Merge

namespace TagAudit.Lexical

open Grammar

/-- What is looked for in a state. -/
structure Mode where
  /-- The number of the set of tokens. -/
  vocabulary : Nat
  /-- The tokens at which the layout looks. -/
  layout : TokenSet
  /-- Whether words that can be no names are kept apart. -/
  reserved : Bool
deriving DecidableEq, Inhabited

/-- The sets of tokens that are looked for, and the mode of each state. -/
structure Modes where
  vocabularies : Array TokenSet
  modes : Array Mode

/-! ### States in use -/

/-- The states to which a state leads. -/
def nextStates (state : ParseState) : List Nat :=
  let shifts := state.actions.toList.flatMap fun actions => actions.filterMap fun action =>
    match action with
    | .shift target _ => some target
    | _ => none
  shifts ++ state.targets.toList.filter (· != 0)

/-- The states that can be reached from those that are waiting; the fuel bounds the number of
steps. -/
def reachFrom (states : Array ParseState) : Nat → List Nat → Array Bool → Array Bool
  | 0, _, reached => reached
  | _ + 1, [], reached => reached
  | fuel + 1, state :: waiting, reached =>
    let next := ((nextStates (states.getD state default)).eraseDups).filter fun target =>
      !reached.getD target true
    let reached := next.foldl (fun reached target => reached.setIfInBounds target true) reached
    reachFrom states fuel (next ++ waiting) reached

/-- The states that can be reached from the start. -/
def reachable (states : Array ParseState) : List Nat :=
  let reached := reachFrom states (states.size + 1) [1]
    ((Array.replicate states.size false).setIfInBounds 1 true)
  (List.range states.size).filter fun state => reached.getD state false

/-- How many entries a state has. -/
def entryCount (state : ParseState) : Nat :=
  (state.actions.filter (!·.isEmpty)).size + (state.targets.filter (· != 0)).size

/-- The states in the order in which they choose their tokens: the one for errors, the start, and
then those with most entries first. -/
def choosingOrder (states : Array ParseState) : List Nat :=
  let others := (reachable states).filter (1 < ·)
  let sized := others.map fun state => (state, entryCount (states.getD state default))
  0 :: 1 :: (sized.mergeSort fun first second => second.2 ≤ first.2).map (·.1)

/-! ### Sets of tokens -/

/-- The tokens that cannot be looked for where a token is not expected beside them: it would hide
or stop them, or overlaps with them though no state expects both. -/
def rivals (table : ParseTable) : Array TokenSet :=
  (Array.range table.grammar.ruleStart).map fun token =>
    let overlapping := TokenSet.ofList ((List.range table.grammar.ruleStart).filter fun other =>
      (table.clashes.overlaps token).contains other ||
        (table.clashes.overlaps other).contains token)
    ((table.clashes.hides token).union (table.clashes.stops.getD token .empty)).union
      (overlapping.diff (table.beside.getD token .empty))

/-- Whether two sets of tokens can be looked for together. -/
def mayJoin (rivals : Array TokenSet) (first second : TokenSet) : Bool :=
  let harmless (tokens others : TokenSet) : Bool :=
    (tokens.diff others).toList.all fun token =>
      ((rivals.getD token .empty).inter others).isEmpty
  harmless first second && harmless second first

/-- Adds a set of tokens to the first of some sets with which it can be looked for; the number of
that set, counted from a given one on. -/
def joinFirst (rivals : Array TokenSet) (tokens : TokenSet) :
    List TokenSet → Nat → List TokenSet × Nat
  | [], number => ([tokens], number)
  | first :: rest, number =>
    if mayJoin rivals first tokens then (first.union tokens :: rest, number)
    else
      let (joined, found) := joinFirst rivals tokens rest (number + 1)
      (first :: joined, found)

/-- The tokens to look for in a state: a name for every keyword, and none of the layout. -/
def lookedFor (table : ParseTable) (state : ParseState) : TokenSet :=
  let keywords := table.grammar.tokensWith Terminal.isKeyword
  let layout := table.grammar.tokensWith Terminal.isLayout
  let tokens := state.tokens.diff layout
  if (tokens.inter keywords).isEmpty then tokens else (tokens.diff keywords).insert wordToken

/-- The sets of tokens that are looked for together, and the number of the set of each state. -/
def formVocabularies (table : ParseTable) : List TokenSet × Array Nat :=
  let rivals := rivals table
  (choosingOrder table.states).foldl (fun (sets, numbers) state =>
    let tokens := lookedFor table (table.states.getD state default)
    let (sets, number) := joinFirst rivals tokens sets 0
    (sets, numbers.setIfInBounds state number)) ([], Array.replicate table.states.size 0)

/-- The modes of the states of a table. -/
def Modes.ofTable (table : ParseTable) : Modes :=
  let (sets, numbers) := formVocabularies table
  let layout := table.grammar.tokensWith Terminal.concernsLayout
  { vocabularies := sets.toArray
    modes := table.states.mapIdx fun number state =>
      { vocabulary := numbers.getD number 0
        layout := state.tokens.inter layout
        reserved := number != 0 && state.expectsWord } }

end TagAudit.Lexical
