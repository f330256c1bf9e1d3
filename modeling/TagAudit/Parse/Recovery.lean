/-
**Recovery from errors.**

Where a token fits nowhere, a reading looks for a way out: it takes a missing token for granted,
returns to a state below in which the token fits and counts what was read since then as an error,
or leaves the token out. Each way has its cost, and the readings with the smallest cost go on.

* `tryMissing` looks for a token that may be missing;
* `returnTo` goes back to a state below;
* `recover` goes back or leaves a token out;
* `handleError` is what happens when a reading does not know what to do with a token.
-/

import TagAudit.Parse.Step

namespace TagAudit.Parse

open Grammar Source ParseM

variable (language : Language)

/-- The number of a token in the table, if it is one. -/
def tokenNumber? (tree : Tree) : Option Nat :=
  match tree.symbol with
  | .known number => some number
  | _ => none

/-- The actions of a state for a token. -/
def actionsOn (state : Nat) (token : Tree) : List Action :=
  match tokenNumber? token with
  | some number => language.actions state number
  | none => []

/-- Whether the first thing to do is to take trees together. -/
def reducesFirst (actions : List Action) : Bool :=
  match actions with
  | .reduce _ _ _ _ :: _ => true
  | _ => false

/-- A tree for a token that is missing. -/
def missingTree (token : Nat) : Tree :=
  let tree := Tree.leaf language.table.symbols (.known token) .zero .zero
  .mk { tree.summary with missing := true } tree.parts

/-- Looks for a token that may be missing before the one at hand: with it, the reading must be able
to move on. -/
def tryMissing (index : Nat) (token : Tree) : List Nat → ParseM Bool
  | [] => pure false
  | missing :: rest => do
    let state := (← get).state index
    let target := language.target state missing
    if target = 0 || target = state || !reducesFirst (actionsOn language target token) then
      tryMissing index token rest
    else
      let reading ← copy index
      push reading (some (missingTree language missing)) target
      let number := (tokenNumber? token).filter (· != 0)
      if ← reduceAll language reading number then return true
      else tryMissing index token rest

/-- The node of an error. -/
def errorNode (parts : List Tree) : Tree := Tree.node language.table.symbols .error [] parts

/-- Goes on with the slices of `returnTo`; `last` is the reading that was treated last. -/
def returnEach (goal : Nat) : List Slice → Option Nat → ParseM (Option Nat)
  | [], last => pure last
  | slice :: rest, last => do
    if last = some slice.head then returnEach goal rest last
    else if (← get).state slice.head ≠ goal then
      setStatus slice.head .halted
      returnEach goal rest last
    else
      let before ← popError slice.head
      let trees :=
        match before with
        | error :: _ => error.parts ++ slice.trees
        | [] => slice.trees
      let (parts, trailing) := splitTrailing trees
      if !parts.isEmpty then
        push slice.head (some ((errorNode language parts).withExtra true)) goal
      pushAll slice.head goal trailing
      returnEach goal rest (some slice.head)

/-- Goes back to a state below, taking what was read since then as an error. -/
def returnTo (index depth goal : Nat) : ParseM Bool := do
  let slices ← popCount index depth
  return (← returnEach language goal slices none).isSome

/-- Looks for a state below in which a token fits, as long as no other reading is better;
`present` is the number of readings at the start. -/
def tryRefuges (index : Nat) (token : Tree) (present count cost : Nat) (position : Extent) :
    List Refuge → ParseM Bool
  | [] => pure false
  | refuge :: rest => do
    let machine ← get
    let depth := if 0 < count then refuge.depth + 1 else refuge.depth
    let taken := (List.range present).any fun other =>
      machine.state other == refuge.state && (machine.position other).bytes == position.bytes
    if refuge.state = 0 || refuge.position.bytes = position.bytes || taken then
      tryRefuges index token present count cost position rest
    else
      let total := cost + refuge.depth * skippedTreeCost +
        (position.bytes - refuge.position.bytes) +
        (position.rows - refuge.position.rows) * skippedLineCost
      if ← hasBetter index total then return false
      else if (actionsOn language refuge.state token).isEmpty then
        tryRefuges index token present count cost position rest
      else if ← returnTo language index depth refuge.state then return true
      else tryRefuges index token present count cost position rest

/-- Drops the readings from a number on that do not go on; the fuel bounds their number. -/
def dropIdle : Nat → Nat → ParseM Unit
  | 0, _ => pure ()
  | fuel + 1, index => do
    let machine ← get
    if machine.heads.size ≤ index then return
    if machine.isActive index then dropIdle fuel (index + 1)
    else
      remove index
      dropIdle fuel index

/-- Drops the readings behind a number. -/
def dropBehind (index : Nat) : ParseM Unit :=
  modify fun machine => { machine with heads := machine.heads.extract 0 (index + 1) }

/-- Leaves a token out: it joins the run of tokens that will make up an error. -/
def leaveOut (index : Nat) (token : Tree) (count : Nat) : ParseM Unit := do
  let extra := (actionsOn language 1 token).getLast? == some .shiftExtra
  let token := if extra then token.withExtra true else token
  let run := Tree.node language.table.symbols .errorRun [] [token]
  let run ←
    if 0 < count then
      match ← popCount index 1 with
      | [] => pure run
      | slice :: others =>
        if !others.isEmpty then dropBehind slice.head
        replace slice.head index
        pure (Tree.node language.table.symbols .errorRun [] (slice.trees ++ [run]))
    else pure run
  push index (some run) 0
  match token.summary.layout with
  | some layout => updateHead index fun head => { head with layout := some layout }
  | none => pure ()

/-- Finds a way on for a reading in an error: back to a state in which the token fits, or on behind
the token, or both side by side. At the end of the source all that was read is an error. -/
def recover (index : Nat) (token : Tree) : ParseM Unit := do
  let machine ← get
  let present := machine.heads.size
  let position := machine.position index
  let refuges := (machine.head index).refuges.getD []
  let cost := errorsOf machine index
  let count ← countSinceError index
  let returned ←
    if token.isError then pure false
    else tryRefuges language index token present count cost position refuges
  dropIdle ((← get).heads.size + 1) present
  if token.symbol = .known 0 then
    push index (some (errorNode language [])) 1
    accept language index token
  else if returned && readingLimit < (← get).heads.size then setStatus index .halted
  else if returned && token.summary.layoutChanged then setStatus index .halted
  else
    let extent := token.extent
    let total := cost + skippedTreeCost + extent.bytes + extent.rows * skippedLineCost
    if ← hasBetter index total then setStatus index .halted
    else leaveOut language index token count

/-- Marks an error on each of some stacks, looking for a missing token until one is found. -/
def markErrors (token : Tree) : List Nat → Bool → ParseM Unit
  | [], _ => pure ()
  | index :: rest, found => do
    let found ←
      if found then pure true
      else tryMissing language index token ((List.range language.terminalCount).drop 1)
    push index none 0
    markErrors token rest found

/-- Joins the reading behind a number to an earlier one, as many times as given. -/
def joinBehind (index next : Nat) : Nat → ParseM Unit
  | 0 => pure ()
  | count + 1 => do
    let _ ← merge index next
    joinBehind index next count

/-- What happens when a reading does not know what to do with a token: all that can be taken
together is taken together, a missing token is looked for, the readings that come of it are joined
in an error, and the reading recovers. -/
def handleError (index : Nat) (token : Tree) : ParseM Unit := do
  let before := (← get).heads.size
  let _ ← reduceAll language index none
  let after := (← get).heads.size
  let others := (List.range after).filter fun other => before ≤ other && other != index
  markErrors language token (index :: others) false
  joinBehind index before (after - before)
  noteRefuges index
  recover language index token

end TagAudit.Parse
