/-
**Items.**

An item is a production with a dot in it: what stands before the dot has been read. Two items
that agree on everything that can still matter are the same one: of the steps before the dot only
the marks count, and their symbols too once a hidden part has brought fields along.

* `ItemTable.ofGrammar` lists the items of a grammar in order and knows each one's successor;
* `ItemTable.firsts` are the tokens that a symbol can start with;
* `ItemTable.closure` adds to some items all those that may start where these stand.
-/

import TagAudit.Grammar.Numbered
import TagAudit.Grammar.TokenSet

namespace TagAudit.Grammar

/-! ### Order and identity of items -/

/-- The part of a production with a dot that tells items apart. -/
structure ItemView where
  dot : Nat
  rule : Nat
  weight : Int
  length : Nat
  /-- Level and side of the step before the dot. -/
  level : Option Int
  side : Option Side
  past : Shape
  ahead : List NumberedStep
  /-- The symbols before the dot, if a hidden one among them brings fields. -/
  carried : List Nat
deriving DecidableEq, Repr

namespace ItemView

/-- The view of a production with the dot behind some steps; `carries` tells which symbols bring
fields along. -/
def ofProduction (carries : Nat → Bool) (production : NumberedProduction) (dot : Nat) : ItemView :=
  let past := production.steps.take dot
  { dot := dot
    rule := production.rule
    weight := production.weight
    length := production.steps.length
    level := past.getLast?.bind (·.level)
    side := past.getLast?.bind (·.side)
    past := past.map fun step => (step.guise, step.field)
    ahead := production.steps.drop dot
    carried := if past.any fun step => carries step.symbol then past.map (·.symbol) else [] }

/-- Nothing comes before something. -/
def compareOption {α : Type} (order : α → α → Ordering) : Option α → Option α → Ordering
  | none, none => .eq
  | none, some _ => .lt
  | some _, none => .gt
  | some first, some second => order first second

/-- Lists are compared place by place. -/
def compareList {α : Type} (order : α → α → Ordering) : List α → List α → Ordering
  | [], [] => .eq
  | [], _ :: _ => .lt
  | _ :: _, [] => .gt
  | first :: rest, second :: others => (order first second).then (compareList order rest others)

/-- Left comes before right. -/
def compareSide : Side → Side → Ordering
  | .left, .right => .lt
  | .right, .left => .gt
  | .left, .left | .right, .right => .eq

/-- Guises are compared by kind. -/
def compareGuise (first second : Guise) : Ordering :=
  (compare first.kind second.kind).then (compare first.named second.named)

/-- Marks are compared by guise and then by field. -/
def compareMarks (first second : Option Guise × Option String) : Ordering :=
  (compareOption compareGuise first.1 second.1).then (compareOption compare first.2 second.2)

/-- Steps are compared by symbol, level, side and marks. -/
def compareStep (rank : Nat → Nat) (first second : NumberedStep) : Ordering :=
  (compare (rank first.symbol) (rank second.symbol)).then <|
    (compareOption compare first.level second.level).then <|
      (compareOption compareSide first.side second.side).then <|
        compareMarks (first.guise, first.field) (second.guise, second.field)

/-- The order of the items; `rank` is the order of the symbols. -/
def order (rank : Nat → Nat) (first second : ItemView) : Ordering :=
  (compare first.dot second.dot).then <|
    (compare first.rule second.rule).then <|
      (compare first.weight second.weight).then <|
        (compare first.length second.length).then <|
          (compareOption compare first.level second.level).then <|
            (compareOption compareSide first.side second.side).then <|
              (compareList compareMarks first.past second.past).then <|
                (compareList (compareStep rank) first.ahead second.ahead).then <|
                  compareList compare first.carried second.carried

end ItemView

/-! ### Items -/

/-- An item as the table knows it. -/
structure Item where
  rule : Nat
  /-- How many steps stand before the dot. -/
  dot : Nat
  /-- The symbol behind the dot and the one after that. -/
  next : Option Nat
  following : Option Nat
  /-- The item with the dot moved over one symbol. -/
  successor : Nat
  level : Int
  side : Option Side
  weight : Int
  /-- The number of the marks that the whole production puts on its parts, for an item with the
  dot at the end. -/
  shape : Nat
deriving Inhabited, Repr

/-- An item that may start where a rule is expected: the tokens that can follow it there, and
whether what follows the rule can follow it as well. -/
structure Addition where
  item : Nat
  ahead : TokenSet
  inherits : Bool
deriving Inhabited

/-- The items of a grammar. -/
structure ItemTable where
  items : Array Item
  shapes : Array Shape
  /-- The tokens with which a symbol can start. -/
  firsts : Array TokenSet
  /-- The items that may start where a rule is expected. -/
  additions : Array (Array Addition)
  /-- The item for a whole source. -/
  start : Nat

/-- Repeats a step until it changes nothing more, or as often as the fuel allows. -/
def settle {α : Type} (step : α → α × Bool) : Nat → α → α
  | 0, value => value
  | fuel + 1, value =>
    let (next, changed) := step value
    if changed then settle step fuel next else next

/-- Puts more tokens into one set of an array and tells whether it grew. -/
def growAt (sets : Array TokenSet) (index : Nat) (more : TokenSet) : Array TokenSet × Bool :=
  let old := sets.getD index .empty
  let new := old.union more
  if new = old then (sets, false) else (sets.setIfInBounds index new, true)

namespace NumberedGrammar

variable (grammar : NumberedGrammar)

/-- The tokens with which each symbol can start. -/
def firstSets : Array TokenSet :=
  let begin := (Array.range grammar.symbolCount).map fun symbol =>
    if grammar.isRule symbol then .empty else TokenSet.singleton symbol
  let step (sets : Array TokenSet) : Array TokenSet × Bool :=
    grammar.productions.foldl (fun (sets, changed) production =>
      match production.steps with
      | [] => (sets, changed)
      | first :: _ =>
        let more := sets.getD first.symbol .empty
        let (sets, grew) := growAt sets production.rule more
        (sets, changed || grew)) (sets, false)
  settle step grammar.symbolCount begin

/-- Which rules have a part with a field, be it in a hidden rule among their parts. -/
def rulesWithFields : Array Bool :=
  let step (found : Array Bool) : Array Bool × Bool :=
    grammar.productions.foldl (fun (found, changed) production =>
      if found.getD production.rule false then (found, changed)
      else if production.steps.any fun step =>
          step.field.isSome ||
            (grammar.isHiddenRule step.symbol && found.getD step.symbol false) then
        (found.setIfInBounds production.rule true, true)
      else (found, changed)) (found, false)
  settle step grammar.symbolCount (Array.replicate grammar.symbolCount false)

/-- The production that stands for a whole source; its rule is numbered after all others. -/
def wholeSource : NumberedProduction :=
  ⟨grammar.symbolCount, [⟨grammar.ruleStart, none, none, none, none⟩], 0⟩

/-- The layout's tokens come first, then the end, the other tokens and the rules. Names come right
behind the numbers. -/
def symbolRank (symbol : Nat) : Nat :=
  let group :=
    match grammar.terminals[symbol]? with
    | none => 3
    | some .endOfSource => 1
    | some .newline | some .indent | some .dedent | some .stringStart | some .stringContent
    | some .escapedBrace | some .stringEnd => 0
    | some _ => 2
  let place :=
    if symbol = wordToken then 2 * terminalOrder.idxOf .float + 1 else 2 * symbol
  group * (2 * grammar.symbolCount) + place

/-- What is known of a rule that can stand at the start of another one: the tokens that can follow
it, and whether what follows the other one can follow it as well. -/
abbrev StartInfo := Option (TokenSet × Bool)

/-- The rules that can stand at the start of a rule. -/
def startInfos (firsts : Array TokenSet) (rule : Nat) : Array StartInfo :=
  let begin := (Array.replicate grammar.symbolCount (none : StartInfo)).setIfInBounds rule
    (some (.empty, true))
  let step (infos : Array StartInfo) : Array StartInfo × Bool :=
    grammar.productions.foldl (fun (infos, changed) production =>
      match infos.getD production.rule none, production.steps with
      | some (ahead, inherits), first :: rest =>
        if grammar.isRule first.symbol then
          let old := infos.getD first.symbol none
          let known := old.getD (.empty, false)
          let new :=
            match rest with
            | second :: _ => (known.1.union (firsts.getD second.symbol .empty), known.2)
            | [] => (known.1.union ahead, known.2 || inherits)
          if old = some new then (infos, changed)
          else (infos.setIfInBounds first.symbol (some new), true)
        else (infos, changed)
      | _, _ => (infos, changed)) (infos, false)
  settle step (grammar.symbolCount * 128) begin

end NumberedGrammar

namespace ItemTable

/-- The views of all items in order, each once. -/
def views (grammar : NumberedGrammar) (carries : Nat → Bool) : List ItemView :=
  let all := (grammar.wholeSource :: grammar.productions.toList).flatMap fun production =>
    (List.range (production.steps.length + 1)).map (ItemView.ofProduction carries production)
  let sorted := all.mergeSort fun first second =>
    (ItemView.order grammar.symbolRank first second).isLE
  sorted.foldr (fun view later =>
    if later.head? = some view then later else view :: later) []

/-- The place at which a view stands in an ordered array, or the size of the array. -/
def locate (rank : Nat → Nat) (views : Array ItemView) (view : ItemView) : Nat :=
  let rec search (fuel low high : Nat) : Nat :=
    match fuel with
    | 0 => low
    | fuel + 1 =>
      if low < high then
        let middle := (low + high) / 2
        match views[middle]? with
        | none => low
        | some found =>
          match ItemView.order rank found view with
          | .lt => search fuel (middle + 1) high
          | .eq => middle
          | .gt => search fuel low middle
      else low
  search (views.size + 1) 0 views.size

/-- The items of a grammar. -/
def ofGrammar (grammar : NumberedGrammar) : ItemTable :=
  let withFields := grammar.rulesWithFields
  let carries symbol := grammar.isHiddenRule symbol && withFields.getD symbol false
  let views := (views grammar carries).toArray
  let find := locate grammar.symbolRank views
  let productions := grammar.productions.toList
  let shapes := ([] :: productions.map (·.shape)).eraseDups.toArray
  let successors := (grammar.wholeSource :: productions).foldl (fun successors production =>
    (List.range production.steps.length).foldl (fun successors dot =>
      successors.setIfInBounds (find (ItemView.ofProduction carries production dot))
        (find (ItemView.ofProduction carries production (dot + 1)))) successors)
    (Array.replicate views.size 0)
  let items := views.mapIdx fun index view =>
    { rule := view.rule
      dot := view.dot
      next := view.ahead.head?.map (·.symbol)
      following := (view.ahead.drop 1).head?.map (·.symbol)
      successor := successors.getD index 0
      level := view.level.getD 0
      side := view.side
      weight := view.weight
      shape := if view.ahead.isEmpty then shapes.idxOf view.past else 0 : Item }
  let firsts := grammar.firstSets
  let starts := grammar.productions.map fun production =>
    (production.rule, find (ItemView.ofProduction carries production 0))
  let additions := (Array.range grammar.symbolCount).map fun symbol =>
    if grammar.isRule symbol then
      let infos := grammar.startInfos firsts symbol
      starts.filterMap fun (rule, item) =>
        (infos.getD rule none).map fun (ahead, inherits) => (⟨item, ahead, inherits⟩ : Addition)
    else #[]
  { items := items
    shapes := shapes
    firsts := firsts
    additions := additions
    start := find (ItemView.ofProduction carries grammar.wholeSource 0) }

/-- An item of a state with the tokens that can follow it. -/
structure KernelItem where
  item : Nat
  ahead : TokenSet
deriving DecidableEq, Hashable, Inhabited

/-- All items that hold where the given ones hold, each with the tokens that can follow it; an
item that does not hold there has none. -/
def closure (table : ItemTable) (kernel : List KernelItem) : Array TokenSet :=
  let begin := kernel.foldl (fun sets entry => sets.setIfInBounds entry.item entry.ahead)
    (Array.replicate table.items.size .empty)
  kernel.foldl (fun sets entry =>
    match table.items[entry.item]? with
    | none => sets
    | some item =>
      match item.next with
      | none => sets
      | some next =>
        let after :=
          match item.following with
          | some following => table.firsts.getD following .empty
          | none => entry.ahead
        (table.additions.getD next #[]).foldl (fun sets addition =>
          let more := if addition.inherits then addition.ahead.union after else addition.ahead
          sets.modify addition.item (·.union more)) sets) begin

end ItemTable

end TagAudit.Grammar
