/-
**From trees to nodes.**

The tree of a reading has hidden parts, and its productions mark parts with kinds and roles. What
is shown are the visible parts, those of hidden ones included; a role that a hidden part plays goes
to the first node shown for it.

* `Tree.toNode` shows a tree;
* `Module.ofSource` reads a source and outlines it.
-/

import TagAudit.Module.Outline
import TagAudit.Parse.Reading

namespace TagAudit

open Grammar Source Parse

/-- The text of a source between two indices, if it is valid UTF-8. -/
def textBetween? (source : ByteArray) (first last : Nat) : Option String :=
  String.fromUTF8? (source.extract first last)

/-- The kind of the nodes of a symbol. -/
def kindText (symbols : Array SymbolInfo) : TreeSymbol → String
  | .known number => (symbols.getD number default).kind
  | .error | .errorRun => "error"

/-- What is known of the node for a tree that starts, with the text before it, at a position. -/
def nodeInfo (symbols : Array SymbolInfo) (source : ByteArray) (guise : Option Guise)
    (role : Option Role) (position : Extent) (tree : Tree) : NodeInfo :=
  let start := position.add tree.summary.padding
  { kind := NodeKind.ofText ((guise.map (·.kind)).getD (kindText symbols tree.symbol))
    role := role
    isNamed := (guise.map (·.named)).getD tree.summary.named
    isError := tree.isError
    isMissing := tree.summary.missing
    hasError := 0 < tree.cost
    location := ⟨start.rows + 1, start.columns + 1⟩
    text :=
      if tree.parts.isEmpty then
        textBetween? source start.bytes (start.bytes + tree.summary.size.bytes)
      else none }

mutual

/-- The node for a visible tree. -/
def toNode (symbols : Array SymbolInfo) (source : ByteArray) (guise : Option Guise)
    (role : Option Role) (position : Extent) : Tree → Node
  | .mk summary parts =>
    .mk (nodeInfo symbols source guise role position (.mk summary parts))
      (shownParts symbols source none true summary.shape position parts)

/-- The nodes for the parts of a tree. `inherited` is the role of the tree itself if it is hidden;
`isFirst` tells that no node has been shown yet. -/
def shownParts (symbols : Array SymbolInfo) (source : ByteArray) (inherited : Option Role)
    (isFirst : Bool) (shape : Shape) (position : Extent) : List Tree → List Node
  | [] => []
  | .mk summary parts :: rest =>
    let tree : Tree := .mk summary parts
    let marks := if summary.extra then (none, none) else shape.head?.getD (none, none)
    let own : Option Role := marks.2.map Role.ofText
    let role := own.or (if isFirst && !summary.extra then inherited else none)
    let later := if summary.extra then shape else shape.drop 1
    let next := position.add tree.extent
    if summary.visible || marks.1.isSome then
      toNode symbols source marks.1 role position (.mk summary parts) ::
        shownParts symbols source inherited false later next rest
    else
      shownParts symbols source role true summary.shape position parts ++
        shownParts symbols source inherited isFirst later next rest

end

/-- The root node of a source. -/
def rootNode (source : ByteArray) : Node :=
  toNode python.table.symbols source none none .zero (readTree python source)

/-- What an audit looks at in a source. -/
def Module.ofSource (source : ByteArray) : Module := (rootNode source).outline

end TagAudit
