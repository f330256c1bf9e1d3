/-
**Reading a source.**

The readings move on in turn, none further than one token ahead of the others. After each round
those that have halted or cost too much are dropped, equal ones are joined, and one that is stuck
recovers from its error. The tree with the smallest cost is the result.

* `advance` moves a reading on by one token;
* `condense` compares the readings and drops the worse ones;
* `readTree` reads a whole source.
-/

import TagAudit.Parse.Recovery

namespace TagAudit.Parse

open Grammar Source ParseM

variable (language : Language)

/-- What doing the actions for a token comes to. -/
inductive Outcome where
  /-- The reading has moved on or ended. -/
  | done
  /-- Trees were taken together; the first reading that came of it, if one is left. -/
  | reduced (reading : Option Nat)
  /-- There was nothing to do. -/
  | stuck

/-- Shifts a token. -/
def shift (index : Nat) (token : Tree) (target : Nat) (extra : Bool) : ParseM Unit := do
  push index (some (token.withExtra extra)) target
  match token.summary.layout with
  | some layout => updateHead index fun head => { head with layout := some layout }
  | none => pure ()

/-- Does the actions for a token one after the other. -/
def perform (index state : Nat) (token : Tree) : List Action → Outcome → ParseM Outcome
  | [], outcome => pure outcome
  | action :: rest, outcome => do
    match action with
    | .shift target repeats =>
      if repeats then perform index state token rest outcome
      else
        shift index token target false
        return .done
    | .shiftExtra =>
      shift index token state true
      return .done
    | .accept =>
      accept language index token
      return .done
    | .recover =>
      recover language index token
      return .done
    | .reduce rule count weight shape =>
      let reading ← reduce language index rule count weight shape
      let last :=
        match reading, outcome with
        | none, .reduced earlier => earlier
        | _, _ => reading
      perform index state token rest (.reduced last)

/-- The token as a plain name. -/
def asName (token : Tree) : Tree :=
  .mk { token.summary with symbol := .known wordToken, visible := true, named := true } token.parts

/-- Does what the table says until the token is shifted or nothing can be done with it; the fuel
bounds the number of reductions. A keyword with which nothing can be done may still be a name. -/
def advanceWith : Nat → Nat → Tree → ParseM Unit
  | 0, index, _ => setStatus index .halted
  | fuel + 1, index, token => do
    let state := (← get).state index
    let outcome ← perform language index state token (actionsOn language state token) .stuck
    match outcome with
    | .done => return
    | .reduced (some reading) =>
      replace reading index
      advanceWith fuel index token
    | .reduced none => setStatus index .halted
    | .stuck =>
      let canBeName :=
        match tokenNumber? token with
        | some number =>
          token.summary.keyword && number != wordToken && !language.isReserved state number &&
            !(language.actions state wordToken).isEmpty
        | none => false
      if canBeName then advanceWith fuel index (asName token)
      else if state = 0 then recover language index token
      else
        updateHead index fun head => { head with status := .paused token }
        let count := ((← get).top index).count
        updateHead index fun head => { head with countAtError := count }

/-- Moves a reading on by one token. -/
def advance (source : Cursor) (fuel index : Nat) : ParseM Unit := do
  let machine ← get
  let request : Request :=
    { state := machine.state index
      start := machine.position index
      layout := (machine.head index).layout
      moved := movedSinceError machine index }
  advanceWith language fuel index (nextToken language source request)

/-! ### Dropping and joining -/

/-- Swaps two readings. -/
def swap (first second : Nat) : ParseM Unit :=
  modify fun machine =>
    let one := machine.head first
    let other := machine.head second
    { machine with
      heads := (machine.heads.setIfInBounds first other).setIfInBounds second one }

/-- Compares a reading with those before it and drops or joins it or them; the number of the
reading at which to go on. -/
def compareWith (own : Standing) : Nat → Nat → Nat → ParseM Nat
  | 0, index, _ => pure (index + 1)
  | fuel + 1, index, other => do
    if index ≤ other then return index + 1
    let found ← standing other
    match found.compare own with
    | .takeLeft =>
      remove index
      return index
    | .takeRight =>
      remove other
      compareWith own fuel (index - 1) other
    | .preferRight =>
      if ← merge other index then return index
      else
        swap index other
        compareWith own fuel index (other + 1)
    | .preferLeft | .equal =>
      if ← merge other index then return index
      else compareWith own fuel index (other + 1)

/-- Compares all readings from a number on; the smallest cost of one that is in no error. -/
def compareAll : Nat → Nat → Option Nat → ParseM (Option Nat)
  | 0, _, least => pure least
  | fuel + 1, index, least => do
    let machine ← get
    let present := machine.heads.size
    if present ≤ index then return least
    if machine.isHalted index then
      remove index
      compareAll fuel index least
    else
      let own ← standing index
      let least :=
        if own.inError then least
        else some (min own.cost (least.getD own.cost))
      let next ← compareWith own (present + 1) index 0
      compareAll fuel next least

/-- Lets the first reading that is stuck recover, unless one before it goes on or there are enough
results; the others that are stuck are dropped. `going` tells that some reading goes on. -/
def resumeFrom : Nat → Nat → Bool → Option Nat → ParseM (Option Nat)
  | 0, _, _, least => pure least
  | left + 1, index, going, least => do
    let machine ← get
    match (machine.head index).status with
    | .paused token =>
      if !going && machine.accepted < readingLimit then
        let cost := errorsOf machine index
        setStatus index .active
        handleError language index token
        resumeFrom left (index + 1) true (some cost)
      else
        remove index
        resumeFrom left index going least
    | _ => resumeFrom left (index + 1) true least

/-- Compares the readings, drops the worse ones and lets one that is stuck recover; the smallest
cost of a reading that goes on. -/
def condense : ParseM (Option Nat) := do
  let present := (← get).heads.size
  let least ← compareAll (2 * present + 2) 0 none
  dropBehind (readingLimit - 1)
  resumeFrom language (← get).heads.size 0 false least

/-! ### The whole source -/

/-- Moves a reading on until it is ahead of the others, waits or ends; the position that was
reached. -/
def advanceReading (source : Cursor) (steps : Nat) : Nat → Nat → Nat → ParseM Nat
  | 0, _, reached => pure reached
  | fuel + 1, index, reached => do
    if (← get).isActive index then
      advance language source steps index
      let machine ← get
      let position :=
        if index < machine.heads.size then (machine.position index).bytes else 0
      if reached < position || (0 < index && position = reached) then return position
      else advanceReading source steps fuel index reached
    else return reached

/-- Moves on all readings from a number on. -/
def advanceAll (source : Cursor) (steps : Nat) : Nat → Nat → Nat → ParseM Nat
  | 0, _, reached => pure reached
  | fuel + 1, index, reached => do
    if (← get).heads.size ≤ index then return reached
    let reached ← advanceReading language source steps steps index reached
    advanceAll source steps fuel (index + 1) reached

/-- Rounds of readings until there is nothing more to read or nothing can get better. -/
def rounds (source : Cursor) (steps : Nat) : Nat → Nat → ParseM Unit
  | 0, _ => pure ()
  | fuel + 1, reached => do
    if (← get).heads.isEmpty then return
    let reached ← advanceAll language source steps steps 0 reached
    let least ← condense language
    let settled : Bool :=
      match (← get).finished, least with
      | some tree, some cost => decide (tree.cost < cost)
      | some _, none => true
      | none, _ => false
    if settled then return else rounds source steps fuel reached

/-- How many steps are made for a source at most. -/
def stepLimit (source : ByteArray) : Nat := 100000 + 1000 * source.size

/-- The tree of a source. Every source has one, if only an error. -/
def readTree (source : ByteArray) : Tree :=
  let steps := stepLimit source
  let machine := (rounds language (Cursor.ofSource source) steps steps 0 Machine.initial).2
  machine.finished.getD (errorNode language [])

end TagAudit.Parse
