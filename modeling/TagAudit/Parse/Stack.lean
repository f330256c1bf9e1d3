/-
**Readings side by side.**

Several readings of a source are followed at once. Each one is a head: the top of a stack of
trees with states in between. Stacks share their lower parts, and where two readings reach the
same state at the same place, their stacks are joined; so the stacks make up a graph, kept as an
array of vertices that only point to earlier ones or to those they were joined with.

* `Machine.push` puts a tree on a stack;
* `Machine.walk` goes down from a head along all ways, `Machine.popCount` takes a number of trees
  off a stack along each of them;
* `Machine.merge` joins two readings;
* `Machine.isBetter` compares what readings cost.
-/

import TagAudit.Parse.Tree

namespace TagAudit.Parse

open Source

/-- A way from a vertex down to another one over a tree, or over nothing where an error was
found. -/
structure Link where
  vertex : Nat
  tree : Option Tree
deriving Inhabited

/-- A state on a stack with what holds up to there: the position, the cost of errors, the weight
and the number of trees. -/
structure Vertex where
  state : Nat
  links : Array Link
  position : Extent
  cost : Nat
  weight : Int
  count : Nat
deriving Inhabited

/-- Whether a reading goes on. -/
inductive Status where
  | active
  | halted
  /-- The reading does not know what to do with a token. -/
  | paused (token : Tree)
deriving Inhabited

/-- A state below the top of a stack, to which a reading may return after an error. -/
structure Refuge where
  position : Extent
  depth : Nat
  state : Nat

/-- The top of a stack. -/
structure Head where
  vertex : Nat
  /-- How many trees there were at the last error. -/
  countAtError : Nat
  /-- The state of the layout. -/
  layout : Option LayoutState
  status : Status
  /-- The states to which the reading may return. -/
  refuges : Option (List Refuge)
deriving Inhabited

/-- All readings, and the best tree for the whole source that was found so far. -/
structure Machine where
  vertices : Array Vertex
  heads : Array Head
  finished : Option Tree
  accepted : Nat
deriving Inhabited

/-- What changes the readings. -/
abbrev ParseM := StateM Machine

/-- Some trees taken off a stack, the lowest first, and the head that is left. -/
structure Slice where
  trees : List Tree
  head : Nat
deriving Inhabited

namespace Machine

/-- The machine at the start of a source. -/
def initial : Machine :=
  { vertices := #[⟨1, #[], .zero, 0, 0, 0⟩]
    heads := #[⟨0, 0, none, .active, none⟩]
    finished := none
    accepted := 0 }

variable (machine : Machine)

/-- The head with a number. -/
def head (index : Nat) : Head := machine.heads.getD index default

/-- The vertex with a number. -/
def vertex (index : Nat) : Vertex := machine.vertices.getD index default

/-- The vertex at the top of a stack. -/
def top (index : Nat) : Vertex := machine.vertex (machine.head index).vertex

/-- The state at the top of a stack. -/
def state (index : Nat) : Nat := (machine.top index).state

/-- The position of a reading. -/
def position (index : Nat) : Extent := (machine.top index).position

/-- Whether a reading goes on. -/
def isActive (index : Nat) : Bool :=
  match (machine.head index).status with
  | .active => true
  | _ => false

/-- Whether a reading has stopped for good. -/
def isHalted (index : Nat) : Bool :=
  match (machine.head index).status with
  | .halted => true
  | _ => false

/-- Whether a reading waits. -/
def isPaused (index : Nat) : Bool :=
  match (machine.head index).status with
  | .paused _ => true
  | _ => false

end Machine

/-- The vertex above another one over a tree. -/
def Vertex.above (below : Nat) (vertex : Vertex) (tree : Option Tree) (state : Nat) : Vertex :=
  match tree with
  | none => { vertex with state := state, links := #[⟨below, none⟩] }
  | some tree =>
    { state := state
      links := #[⟨below, some tree⟩]
      position := vertex.position.add tree.extent
      cost := vertex.cost + tree.cost
      weight := vertex.weight + tree.summary.weight
      count := vertex.count + tree.count }

namespace ParseM

/-- Changes a head. -/
def updateHead (index : Nat) (change : Head → Head) : ParseM Unit :=
  modify fun machine => { machine with heads := machine.heads.modify index change }

/-- Changes a vertex. -/
def updateVertex (index : Nat) (change : Vertex → Vertex) : ParseM Unit :=
  modify fun machine => { machine with vertices := machine.vertices.modify index change }

/-- Puts a tree, or nothing where an error was found, on a stack. -/
def push (index : Nat) (tree : Option Tree) (state : Nat) : ParseM Unit :=
  modify fun machine =>
    let head := machine.head index
    let fresh := machine.vertices.size
    let vertex := Vertex.above head.vertex (machine.vertex head.vertex) tree state
    let countAtError := if tree.isNone then vertex.count else head.countAtError
    { machine with
      vertices := machine.vertices.push vertex
      heads := machine.heads.modify index fun head =>
        { head with vertex := fresh, countAtError := countAtError } }

/-- Sets the status of a reading. -/
def setStatus (index : Nat) (status : Status) : ParseM Unit :=
  updateHead index fun head => { head with status := status }

/-- Drops a reading. -/
def remove (index : Nat) : ParseM Unit :=
  modify fun machine => { machine with heads := machine.heads.eraseIdxIfInBounds index }

/-- Puts one reading in the place of another. -/
def replace (source target : Nat) : ParseM Unit :=
  if source = target then pure ()
  else modify fun machine =>
    let moved := machine.head source
    let moved := { moved with refuges := moved.refuges.or (machine.head target).refuges }
    { machine with
      heads := (machine.heads.setIfInBounds target moved).eraseIdxIfInBounds source }

/-- A second reading that starts like another one; the number of the new one. -/
def copy (index : Nat) : ParseM Nat :=
  modifyGet fun machine =>
    (machine.heads.size,
      { machine with heads := machine.heads.push { machine.head index with refuges := none } })

/-! ### Joining -/

/-- Whether two ways lead over the same tree. -/
def sameTree : Option Tree → Option Tree → Bool
  | none, none => true
  | some first, some second => first.alike second
  | _, _ => false

/-- The weight of a way. -/
def linkWeight (tree : Option Tree) : Int :=
  match tree with
  | some tree => tree.summary.weight
  | none => 0

/-- How many ways may lead down from a vertex. -/
def linkLimit : Nat := 8

/-- Adds a way down from a vertex. A way over the same tree to a vertex like another one is
followed further down in its place. The fuel bounds how far. -/
def addLink : Nat → Nat → Link → ParseM Unit
  | 0, _, _ => pure ()
  | fuel + 1, self, link => do
    if link.vertex = self then return
    let machine ← get
    let below := machine.vertex link.vertex
    let weight := below.weight + linkWeight link.tree
    let joins (other : Link) : Bool :=
      let found := machine.vertex other.vertex
      sameTree other.tree link.tree &&
        (other.vertex == link.vertex ||
          (found.state == below.state && found.position.bytes == below.position.bytes &&
            found.cost == below.cost))
    match (machine.vertex self).links.findIdx? joins with
    | some place =>
      let other := (machine.vertex self).links.getD place default
      if other.vertex = link.vertex then
        if linkWeight other.tree < linkWeight link.tree then
          updateVertex self fun vertex =>
            { vertex with links := vertex.links.setIfInBounds place link, weight := weight }
      else
        for lower in below.links do
          addLink fuel other.vertex lower
        updateVertex self fun vertex => { vertex with weight := max vertex.weight weight }
    | none =>
      let more :=
        match link.tree with
        | some tree => tree.count
        | none => 0
      updateVertex self fun vertex =>
        if vertex.links.size = linkLimit then vertex
        else { vertex with
          links := vertex.links.push link
          count := max vertex.count (below.count + more)
          weight := max vertex.weight weight }

/-- Whether two readings can be joined: both go on from the same state at the same place, at the
same cost and with the same layout. -/
def canMerge (machine : Machine) (first second : Nat) : Bool :=
  let one := machine.top first
  let other := machine.top second
  machine.isActive first && machine.isActive second && one.state == other.state &&
    one.position.bytes == other.position.bytes && one.cost == other.cost &&
    (machine.head first).layout == (machine.head second).layout

/-- Joins the second reading to the first one if that is possible. -/
def merge (first second : Nat) : ParseM Bool := do
  let machine ← get
  if canMerge machine first second then
    let target := (machine.head first).vertex
    let fuel := machine.vertices.size + 1
    for link in (machine.top second).links do
      addLink fuel target link
    let joined := (← get).vertex target
    if joined.state = 0 then
      updateHead first fun head => { head with countAtError := joined.count }
    remove second
    return true
  else return false

/-- Joins a reading to the first one it can be joined to among those from a number on and before
another. -/
def mergeInto (other : Nat) : List Nat → ParseM Bool
  | [] => pure false
  | first :: rest => do
    if ← merge first other then return true else mergeInto other rest

/-! ### Ways down -/

/-- A walk down from a head: where it is, the trees it has passed, the latest first, and how many
of them count. -/
structure Walker where
  vertex : Nat
  trees : List Tree
  count : Nat
deriving Inhabited

/-- What a walk comes to at a vertex. -/
structure Verdict where
  /-- The trees passed so far are taken off the stack. -/
  takes : Bool
  /-- The walk ends here. -/
  stops : Bool

/-- Keeps the trees that a walk has passed: a new head is left below them, unless there is one for
this vertex already. -/
def addSlice (origin : Nat) (walker : Walker) (slices : Array Slice) : ParseM (Array Slice) := do
  let machine ← get
  let sameBelow (slice : Slice) : Bool := (machine.head slice.head).vertex == walker.vertex
  match (List.range slices.size).reverse.find? fun place =>
      sameBelow (slices.getD place default) with
  | some place =>
    let slice : Slice := ⟨walker.trees, (slices.getD place default).head⟩
    return (slices.toList.take (place + 1) ++ slice :: slices.toList.drop (place + 1)).toArray
  | none =>
    let head := { machine.head origin with
      vertex := walker.vertex, status := .active, refuges := none }
    set { machine with heads := machine.heads.push head }
    return slices.push ⟨walker.trees, machine.heads.size⟩

/-- The walker behind a link. -/
def Walker.follow (walker : Walker) (link : Link) : Walker :=
  match link.tree with
  | none => { walker with vertex := link.vertex, count := walker.count + 1 }
  | some tree =>
    { vertex := link.vertex
      trees := tree :: walker.trees
      count := if tree.isExtra then walker.count else walker.count + 1 }

/-- How many walks are followed at once. -/
def walkLimit : Nat := 64

/-- One round of all walks: each one is judged, ends or goes down one link. Where there are several
links the first one is followed by the walk itself and the others by new ones. `present` is the
number of all walks. -/
def walkRound {σ : Type} (judge : σ → Walker → Machine → Verdict × σ) (origin : Nat) :
    List Walker → Nat → List Walker → List Walker → Array Slice → σ →
      ParseM (List Walker × Array Slice × σ)
  | [], _, kept, fresh, slices, judgement => pure (kept.reverse ++ fresh.reverse, slices, judgement)
  | walker :: rest, present, kept, fresh, slices, judgement => do
    let machine ← get
    let (verdict, judgement) := judge judgement walker machine
    let links := (machine.vertex walker.vertex).links.toList
    let slices ← if verdict.takes then addSlice origin walker slices else pure slices
    match links with
    | [] => walkRound judge origin rest (present - 1) kept fresh slices judgement
    | first :: others =>
      if verdict.stops then
        walkRound judge origin rest (present - 1) kept fresh slices judgement
      else
        let added := others.take (walkLimit - present)
        walkRound judge origin rest (present + added.length) (walker.follow first :: kept)
          ((added.map walker.follow).reverse ++ fresh) slices judgement

/-- Rounds of walks until all have ended, as many as the fuel allows. -/
def walkRounds {σ : Type} (judge : σ → Walker → Machine → Verdict × σ) (origin : Nat) :
    Nat → List Walker → Array Slice → σ → ParseM (Array Slice × σ)
  | 0, _, slices, judgement => pure (slices, judgement)
  | _, [], slices, judgement => pure (slices, judgement)
  | fuel + 1, walkers, slices, judgement => do
    let (walkers, slices, judgement) ←
      walkRound judge origin walkers walkers.length [] [] slices judgement
    walkRounds judge origin fuel walkers slices judgement

/-- Goes down from a head along all ways. -/
def walk {σ : Type} (judge : σ → Walker → Machine → Verdict × σ) (origin : Nat)
    (judgement : σ) : ParseM (Array Slice × σ) := do
  let machine ← get
  walkRounds judge origin (machine.vertices.size + 1) [⟨(machine.head origin).vertex, [], 0⟩] #[]
    judgement

/-- Takes a number of trees off a stack, extra ones not counted. -/
def popCount (origin count : Nat) : ParseM (List Slice) := do
  let judge (_ : Unit) (walker : Walker) (_ : Machine) : Verdict × Unit :=
    (⟨walker.count == count, walker.count == count⟩, ())
  return (← walk judge origin ()).1.toList

/-- Takes all trees off a stack. -/
def popAll (origin : Nat) : ParseM (List Slice) := do
  let judge (_ : Unit) (walker : Walker) (machine : Machine) : Verdict × Unit :=
    (⟨(machine.vertex walker.vertex).links.isEmpty, false⟩, ())
  return (← walk judge origin ()).1.toList

/-- Takes an error off the top of a stack if there is one; its trees. -/
def popError (origin : Nat) : ParseM (List Tree) := do
  let machine ← get
  let isError (tree : Option Tree) : Bool :=
    match tree with
    | some tree => tree.isError
    | none => false
  if (machine.top origin).links.any fun link => isError link.tree then
    let judge (found : Bool) (walker : Walker) (_ : Machine) : Verdict × Bool :=
      match walker.trees with
      | [] => (⟨false, false⟩, found)
      | tree :: _ => if !found && tree.isError then (⟨true, true⟩, true) else (⟨false, true⟩, found)
    match (← walk judge origin false).1.toList with
    | slice :: _ =>
      replace slice.head origin
      return slice.trees
    | [] => return []
  else return []

/-- How far down the states to return to are looked for. -/
def refugeDepth : Nat := 16

/-- Whether a state at some depth is among the refuges found so far, the latest first. -/
def knownRefuge (depth state : Nat) : List Refuge → Bool
  | [] => false
  | refuge :: rest =>
    if refuge.depth < depth then false
    else (refuge.depth == depth && refuge.state == state) || knownRefuge depth state rest

/-- Notes the states to which a reading may return after an error. -/
def noteRefuges (origin : Nat) : ParseM Unit := do
  let judge (found : List Refuge) (walker : Walker) (machine : Machine) :
      Verdict × List Refuge :=
    if refugeDepth < walker.count then (⟨false, true⟩, found)
    else
      let vertex := machine.vertex walker.vertex
      if knownRefuge walker.count vertex.state found then (⟨false, false⟩, found)
      else (⟨false, false⟩, ⟨vertex.position, walker.count, vertex.state⟩ :: found)
  let (_, found) ← walk judge origin []
  updateHead origin fun head => { head with refuges := some found.reverse }

/-! ### Comparing readings -/

/-- What the errors of a reading cost; a reading that is in the midst of an error pays for it. -/
def errorsOf (machine : Machine) (index : Nat) : Nat :=
  let top := machine.top index
  let fresh :=
    match top.links[0]? with
    | some link => link.tree.isNone
    | none => true
  top.cost + (if machine.isPaused index || (top.state == 0 && fresh) then errorCost else 0)

/-- How many trees were read since the last error. -/
def countSinceError (index : Nat) : ParseM Nat := do
  let count := ((← get).top index).count
  updateHead index fun head => { head with countAtError := min head.countAtError count }
  return count - ((← get).head index).countAtError

/-- Whether a reading has moved on since the last error, looking down a stack as far as the fuel
allows. -/
def movedOn (machine : Machine) (countAtError : Nat) : Nat → Nat → Bool
  | 0, _ => false
  | fuel + 1, index =>
    let vertex := machine.vertex index
    match vertex.links[0]? with
    | none => false
    | some link =>
      match link.tree with
      | none => false
      | some tree =>
        if 0 < tree.extent.bytes then true
        else if countAtError < vertex.count && tree.cost == 0 then
          movedOn machine countAtError fuel link.vertex
        else false

/-- Whether a reading has moved on since the last error. -/
def movedSinceError (machine : Machine) (index : Nat) : Bool :=
  let head := machine.head index
  (machine.top index).cost == 0 ||
    movedOn machine head.countAtError (machine.vertices.size + 1) head.vertex

/-- What counts when readings are compared. -/
structure Standing where
  cost : Nat
  count : Nat
  weight : Int
  inError : Bool

/-- The standing of a reading. -/
def standing (index : Nat) : ParseM Standing := do
  let count ← countSinceError index
  let machine ← get
  let paused := machine.isPaused index
  return {
    cost := errorsOf machine index + (if paused then skippedTreeCost else 0)
    count := count
    weight := (machine.top index).weight
    inError := paused || machine.state index == 0 }

/-- The outcome of a comparison: a side is preferred, or so much better that the other is
dropped. -/
inductive Comparison where
  | takeLeft
  | preferLeft
  | equal
  | preferRight
  | takeRight
deriving DecidableEq

/-- By how much a reading may cost more than another one that has not gone far. -/
def costMargin : Nat := 1800

/-- Compares two readings: first whether one is in an error, then the cost, then the weight. -/
def Standing.compare (left right : Standing) : Comparison :=
  if !left.inError && right.inError then
    if left.cost < right.cost then .takeLeft else .preferLeft
  else if left.inError && !right.inError then
    if right.cost < left.cost then .takeRight else .preferRight
  else if left.cost < right.cost then
    if costMargin < (right.cost - left.cost) * (1 + left.count) then .takeLeft else .preferLeft
  else if right.cost < left.cost then
    if costMargin < (left.cost - right.cost) * (1 + right.count) then .takeRight
    else .preferRight
  else if right.weight < left.weight then .preferLeft
  else if left.weight < right.weight then .preferRight
  else .equal

/-- Whether one of some readings is better than a standing of another. -/
def anyBetter (index : Nat) (own : Standing) (position : Nat) : List Nat → ParseM Bool
  | [] => pure false
  | other :: rest => do
    let machine ← get
    if other = index || !machine.isActive other || (machine.position other).bytes < position then
      anyBetter index own position rest
    else
      let found ← standing other
      match own.compare found with
      | .takeRight => return true
      | .preferRight =>
        if canMerge (← get) other index then return true else anyBetter index own position rest
      | _ => anyBetter index own position rest

/-- Whether there is something better than what a reading would come to at some cost. -/
def hasBetter (index cost : Nat) : ParseM Bool := do
  let machine ← get
  match machine.finished with
  | some tree => if tree.cost ≤ cost then return true
  | none => pure ()
  let count ← countSinceError index
  let own : Standing := ⟨cost, count, (machine.top index).weight, false⟩
  anyBetter index own (machine.position index).bytes (List.range machine.heads.size)

end ParseM

end TagAudit.Parse
