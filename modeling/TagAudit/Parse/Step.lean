/-
**Steps of a reading.**

A reading takes its next token and does what the table says: it shifts the token, takes trees
together as a node, or finds that the source has been read. Where the table gives several
productions that end, the reading splits.

* `reduce` takes trees together along all ways down a stack;
* `accept` keeps the tree for the whole source if it is the best so far;
* `reduceAll` does all that is possible without a token, or with a given one.
-/

import TagAudit.Parse.Next

namespace TagAudit.Parse

open Grammar Source ParseM

/-- How many readings are followed. -/
def readingLimit : Nat := 6

/-- How many more readings there may be for a moment. -/
def readingOverflow : Nat := 4

/-- Splits off the extra trees at the end. -/
def splitTrailing (trees : List Tree) : List Tree × List Tree :=
  let trailing := trees.reverse.takeWhile (·.isExtra)
  (trees.take (trees.length - trailing.length), trailing.reverse)

/-- The slices by the heads that are left below them. -/
def slicesByHead : List Slice → List (Nat × List (List Tree))
  | [] => []
  | slice :: rest =>
    match slicesByHead rest with
    | (head, trees) :: others =>
      if head = slice.head then (head, slice.trees :: trees) :: others
      else (slice.head, [slice.trees]) :: (head, trees) :: others
    | [] => [(slice.head, [slice.trees])]

variable (language : Language)

/-- A node of a rule. -/
def ruleNode (rule shape : Nat) (parts : List Tree) : Tree :=
  Tree.node language.table.symbols (.known rule) (language.table.shapes.getD shape []) parts

/-- The best node that some ways of taking trees together make up, with the extra trees behind
it. -/
def bestNode (rule shape : Nat) : List (List Tree) → Tree × List Tree
  | [] => (ruleNode language rule shape [], [])
  | first :: others =>
    let build (trees : List Tree) : Tree × List Tree :=
      let (parts, trailing) := splitTrailing trees
      (ruleNode language rule shape parts, trailing)
    others.foldl (fun best trees =>
      let next := build trees
      if best.1.prefers next.1 then next else best) (build first)

/-- Adds to the weight of a tree. -/
def addWeight (weight : Int) (tree : Tree) : Tree :=
  .mk { tree.summary with weight := tree.summary.weight + weight } tree.parts

/-- Puts trees on a stack without leaving a state. -/
def pushAll (index state : Nat) : List Tree → ParseM Unit
  | [] => pure ()
  | tree :: rest => do
    push index (some tree) state
    pushAll index state rest

/-- Puts the node of a rule on each stack that is left; `removed` counts the readings that were
dropped or joined on the way. -/
def pushNodes (origin rule shape : Nat) (weight : Int) (limit : Nat) :
    List (Nat × List (List Tree)) → Nat → ParseM Unit
  | [], _ => pure ()
  | (head, ways) :: rest, removed => do
    let index := head - removed
    if limit < index then
      remove index
      pushNodes origin rule shape weight limit rest (removed + 1)
    else
      let (node, trailing) := bestNode language rule shape ways
      let target := language.target ((← get).state index) rule
      push index (some (addWeight weight node)) target
      pushAll index target trailing
      let joined ← mergeInto index ((List.range index).filter (· != origin))
      pushNodes origin rule shape weight limit rest (if joined then removed + 1 else removed)

/-- Takes trees off a stack and puts a node in their place, along all ways down; the number of the
first reading that comes of it. -/
def reduce (origin rule count : Nat) (weight : Int) (shape : Nat) : ParseM (Option Nat) := do
  let before := (← get).heads.size
  let slices ← popCount origin count
  let machine ← get
  let halted := ((List.range machine.heads.size).filter machine.isHalted).length
  pushNodes language origin rule shape weight (readingLimit + readingOverflow + halted)
    (slicesByHead slices) 0
  return if before < (← get).heads.size then some before else none

/-- The trees of a whole source with the parts of the last one that is not extra put in its
place. -/
def rootOf (trees : List Tree) : Option Tree :=
  let trailing := trees.reverse.takeWhile (·.isExtra)
  match trees.reverse.dropWhile (·.isExtra) with
  | [] => none
  | tree :: before =>
    some (Tree.node language.table.symbols tree.symbol tree.summary.shape
      (before.reverse ++ tree.parts ++ trailing.reverse))

/-- Keeps a tree for the whole source if it is better than the one found before. -/
def keepFinished (root : Option Tree) : ParseM Unit :=
  modify fun machine =>
    { machine with
      accepted := machine.accepted + 1
      finished :=
        match machine.finished, root with
        | some best, some next => if best.prefers next then some next else some best
        | none, next => next
        | best, none => best }

/-- The source has been read: the reading ends. -/
def accept (index : Nat) (token : Tree) : ParseM Unit := do
  push index (some token) 1
  let slices ← popAll index
  for slice in slices do
    keepFinished (rootOf language slice.trees)
  match slices with
  | slice :: _ => remove slice.head
  | [] => pure ()
  setStatus index .halted

/-- Whether an action moves on behind a token. -/
def movesOn : Action → Bool
  | .shift _ repeats => !repeats
  | .recover => true
  | _ => false

/-- The productions that end before one of some tokens, each rule and length once. -/
def endings (state : Nat) (tokens : List Nat) : List (Nat × Nat × Int × Nat) :=
  (tokens.flatMap (language.actions state)).foldl (fun found action =>
    match action with
    | .reduce rule count weight shape =>
      if count = 0 || found.any (fun (other, length, _, _) => other == rule && length == count)
      then found
      else found ++ [(rule, count, weight, shape)]
    | _ => found) []

/-- Does the given reductions; the result of the last one. -/
def reduceEach (index : Nat) : List (Nat × Nat × Int × Nat) → Option Nat → ParseM (Option Nat)
  | [], last => pure last
  | (rule, count, weight, shape) :: rest, _ => do
    let last ← reduce language index rule count weight shape
    reduceEach index rest last

/-- Goes on with `reduceAll` at a reading; `round` counts how often reductions were done, `first`
is the number of readings at the start. -/
def reduceFrom (origin first : Nat) (tokens : List Nat) (anyToken : Bool) :
    Nat → Nat → Nat → Bool → ParseM Bool
  | 0, _, _, able => pure able
  | fuel + 1, round, index, able => do
    let machine ← get
    let present := machine.heads.size
    if present ≤ index then return able
    if ← mergeInto index ((List.range index).filter (first ≤ ·)) then
      reduceFrom origin first tokens anyToken fuel (round + 1) index able
    else
      let state := machine.state index
      let shifts := (tokens.flatMap (language.actions state)).any movesOn
      let last ← reduceEach language index (endings language state tokens) none
      let next := if index = origin then present else index + 1
      if shifts then
        reduceFrom origin first tokens anyToken fuel (round + 1) next true
      else
        match last with
        | some reading =>
          if round < readingLimit then
            replace reading index
            reduceFrom origin first tokens anyToken fuel (round + 1) index able
          else
            if !anyToken then remove index
            reduceFrom origin first tokens anyToken fuel (round + 1) next able
        | none =>
          if !anyToken then remove index
          reduceFrom origin first tokens anyToken fuel (round + 1) next able

/-- How many rounds of reductions are done at most. -/
def roundLimit : Nat := 10000

/-- Does all reductions that are possible before a token, or before any token if none is given,
and tells whether some reading can then move on. Readings that cannot are dropped if the token is
given. -/
def reduceAll (origin : Nat) (token : Option Nat) : ParseM Bool := do
  let tokens :=
    match token with
    | some token => [token]
    | none => (List.range language.terminalCount).drop 1
  let first := (← get).heads.size
  reduceFrom language origin first tokens token.isNone roundLimit 0 origin false

end TagAudit.Parse
