/-
**Trees of a reading.**

A tree is a token or a node with parts. It carries the text before it and its own, what errors in
it cost, and how its parts appear. Of two trees for the same text the one with the smaller cost is
taken.

* `Tree.leaf` and `Tree.node` build trees and sum up what is known of the parts;
* `Tree.cost` is what the errors in a tree cost;
* `Tree.prefers` decides between two trees for the same text.
-/

import TagAudit.Grammar.Action
import TagAudit.Source.Layout

namespace TagAudit.Parse

open Grammar Source

/-- What a tree stands for. -/
inductive TreeSymbol where
  /-- A token or rule of the grammar. -/
  | known (number : Nat)
  /-- Text that fits nowhere. -/
  | error
  /-- A run of tokens that will become part of an error. -/
  | errorRun
deriving DecidableEq, Inhabited, Repr

/-- What is known of a tree without looking at its parts. -/
structure Summary where
  symbol : TreeSymbol
  /-- The text between the tree and what stands before it. -/
  padding : Extent
  size : Extent
  visible : Bool
  named : Bool
  /-- The tree may stand anywhere. -/
  extra : Bool
  /-- The tree stands for a token that is missing in the source. -/
  missing : Bool
  /-- The token is a word that is also a keyword. -/
  keyword : Bool
  /-- What the errors inside cost. -/
  errors : Nat
  weight : Int
  /-- How many visible trees stand below, and how many of them are parts of this one. -/
  shownBelow : Nat
  shownParts : Nat
  /-- The marks that the production puts on the parts. -/
  shape : Shape
  /-- The state of the layout behind the last token of the layout inside. -/
  layout : Option LayoutState
  /-- Whether such a token changed the state of the layout. -/
  layoutChanged : Bool
deriving Inhabited

/-- A token or a node with its parts. -/
inductive Tree where
  | mk (summary : Summary) (parts : List Tree)
deriving Inhabited

/-- What an error costs, beside one unit for every byte. -/
def errorCost : Nat := 500

/-- What a missing token costs. -/
def missingCost : Nat := 110

/-- What each visible tree costs that is left out. -/
def skippedTreeCost : Nat := 100

/-- What each line costs that is left out. -/
def skippedLineCost : Nat := 30

namespace Tree

/-- What is known of the tree as a whole. -/
def summary : Tree → Summary
  | mk summary _ => summary

/-- The parts of the tree. -/
def parts : Tree → List Tree
  | mk _ parts => parts

/-- The symbol of the tree. -/
def symbol (tree : Tree) : TreeSymbol := tree.summary.symbol

/-- Whether the tree stands for text that fits nowhere. -/
def isError (tree : Tree) : Bool := tree.symbol == .error

/-- Whether the tree may stand anywhere. -/
def isExtra (tree : Tree) : Bool := tree.summary.extra

/-- The text of the tree together with what stands before it. -/
def extent (tree : Tree) : Extent := tree.summary.padding.add tree.summary.size

/-- What the errors in the tree cost. -/
def cost (tree : Tree) : Nat :=
  if tree.summary.missing then missingCost + errorCost else tree.summary.errors

/-- The tree as one that may or may not stand anywhere. -/
def withExtra (extra : Bool) : Tree → Tree
  | mk summary parts => mk { summary with extra := extra } parts

/-- How a symbol appears. -/
def appearance (symbols : Array SymbolInfo) : TreeSymbol → Bool × Bool
  | .known number => ((symbols.getD number default).visible, (symbols.getD number default).named)
  | .error => (true, true)
  | .errorRun => (false, false)

/-- A token. -/
def leaf (symbols : Array SymbolInfo) (symbol : TreeSymbol) (padding size : Extent) : Tree :=
  let (visible, named) := appearance symbols symbol
  mk
    { symbol := symbol
      padding := padding
      size := size
      visible := visible
      named := named
      extra := symbol == .known 0
      missing := false
      keyword := false
      errors := 0
      weight := 0
      shownBelow := 0
      shownParts := 0
      shape := []
      layout := none
      layoutChanged := false } []

/-- What leaving out a part costs beside its text. -/
def skipCost (part : Tree) : Nat :=
  if part.isExtra || (part.isError && part.parts.isEmpty) then 0
  else if part.summary.visible then skippedTreeCost
  else skippedTreeCost * part.summary.shownParts

/-- The summary of a node with one more part; `shape` are the marks for this part and those behind
it. The summary's own marks stay what they are. -/
def addPart (isFirst inError : Bool) (guise : Option Guise) (sum : Summary) (part : Tree) :
    Summary :=
  let known := part.summary
  let shown := known.visible || (guise.isSome && !known.extra && known.symbol != .known 0)
  { sum with
    padding := if isFirst then known.padding else sum.padding
    size := if isFirst then known.size else sum.size.add part.extent
    errors := sum.errors + (if known.symbol == .errorRun then 0 else part.cost) +
      (if inError then part.skipCost else 0)
    weight := sum.weight + known.weight
    shownBelow := sum.shownBelow + known.shownBelow + (if shown then 1 else 0)
    shownParts := sum.shownParts + (if shown then 1 else known.shownParts)
    layout := known.layout.or sum.layout
    layoutChanged := sum.layoutChanged || known.layoutChanged }

/-- Adds up the parts of a node. Marks belong to the parts that are not extra, in order. -/
def addParts (inError isFirst : Bool) (sum : Summary) : Shape → List Tree → Summary
  | _, [] => sum
  | shape, part :: rest =>
    let guise := shape.head?.bind (·.1)
    let next := addPart isFirst inError guise sum part
    addParts inError false next (if part.isExtra then shape else shape.drop 1) rest

/-- A node with its parts. -/
def node (symbols : Array SymbolInfo) (symbol : TreeSymbol) (shape : Shape) (parts : List Tree) :
    Tree :=
  let inError := symbol == .error || symbol == .errorRun
  let bare := { (leaf symbols symbol .zero .zero).summary with extra := false, shape := shape }
  let sum := addParts inError true bare shape parts
  let size := sum.size
  let own := if inError then errorCost + size.bytes + skippedLineCost * size.rows else 0
  mk { sum with errors := sum.errors + own } parts

/-- How many trees a tree counts for: its visible ones, and a run of an error as well. -/
def count (tree : Tree) : Nat :=
  tree.summary.shownBelow + (if tree.summary.visible then 1 else 0) +
    (if tree.symbol == .errorRun then 1 else 0)

/-- The order of symbols. -/
def compareSymbols : TreeSymbol → TreeSymbol → Ordering
  | .known first, .known second => compare first second
  | .known _, _ => .lt
  | _, .known _ => .gt
  | .errorRun, .error => .lt
  | .error, .errorRun => .gt
  | .error, .error | .errorRun, .errorRun => .eq

/-- The first difference in symbol or number of parts on the way through two lists of pairs; the
fuel bounds the number of pairs. -/
def comparePairs : Nat → List (Tree × Tree) → Ordering
  | 0, _ => .eq
  | _, [] => .eq
  | fuel + 1, (first, second) :: rest =>
    match (compareSymbols first.symbol second.symbol).then
        (compare first.parts.length second.parts.length) with
    | .eq => comparePairs fuel (first.parts.zip second.parts ++ rest)
    | other => other

mutual

/-- How many trees there are in a tree. -/
def treeCount : Tree → Nat
  | mk _ parts => 1 + treeCounts parts

/-- How many trees there are in some trees. -/
def treeCounts : List Tree → Nat
  | [] => 0
  | tree :: rest => treeCount tree + treeCounts rest

end

/-- The order in which trees without errors are preferred. -/
def order (first second : Tree) : Ordering :=
  comparePairs (treeCount first + 1) [(first, second)]

/-- Whether the second of two trees for the same text is taken in place of the first: it costs
less, or else it weighs more, or else it comes first in order; of two with errors the second is
taken. -/
def prefers (first second : Tree) : Bool :=
  if second.cost < first.cost then true
  else if first.cost < second.cost then false
  else if first.summary.weight < second.summary.weight then true
  else if second.summary.weight < first.summary.weight then false
  else if 0 < first.cost then true
  else order first second == .gt

/-- Whether two trees count as the same. -/
def alike (first second : Tree) : Bool :=
  let one := first.summary
  let other := second.summary
  one.symbol == other.symbol &&
    ((0 < first.cost && 0 < second.cost) ||
      (one.padding.bytes == other.padding.bytes && one.size.bytes == other.size.bytes &&
        first.parts.length == second.parts.length && one.extra == other.extra &&
        one.layout == other.layout))

end Tree

end TagAudit.Parse
