/-
**Nodes of a source.**

A source is seen as a tree of nodes in source order. A node knows what it is, which role it plays
in the node around it, where it starts, and whether something is wrong with it or inside of it.

* `NodeKind` names the kinds of nodes that matter for an audit, `Role` the roles;
* `Node.field?` is the first child with a role, `Node.namedChildren` leaves out keywords and signs.
-/

import TagAudit.Module.Basic

namespace TagAudit

/-- What a node is. -/
inductive NodeKind where
  | classDefinition
  | functionDefinition
  /-- A definition with its decorators. -/
  | decoratedDefinition
  | decorator
  | call
  | attribute
  | parenthesizedExpression
  | identifier
  | comment
  | other (name : String)
deriving Repr, DecidableEq, Inhabited

/-- The role that a node plays in the node around it. -/
inductive Role where
  | name
  | body
  | definition
  | function
  | object
  | attribute
  | other (name : String)
deriving Repr, DecidableEq

/-- What is known of a node without looking at its children. -/
structure NodeInfo where
  kind : NodeKind
  role : Option Role
  /-- A named node is more than a keyword or sign. -/
  isNamed : Bool
  /-- The node stands for text that fits nowhere. -/
  isError : Bool
  /-- The node stands for a token that is missing. -/
  isMissing : Bool
  /-- Something is wrong with the node or inside of it. -/
  hasError : Bool
  location : Location
  /-- The text of a token, if it is valid UTF-8. -/
  text : Option String
deriving Repr, DecidableEq, Inhabited

/-- A node with its children in source order. -/
inductive Node where
  | mk (info : NodeInfo) (children : List Node)
deriving Repr, Inhabited

namespace NodeKind

/-- The kind with a name. -/
def ofText : String → NodeKind
  | "classDefinition" => .classDefinition
  | "functionDefinition" => .functionDefinition
  | "decoratedDefinition" => .decoratedDefinition
  | "decorator" => .decorator
  | "call" => .call
  | "attribute" => .attribute
  | "parenthesizedExpression" => .parenthesizedExpression
  | "identifier" => .identifier
  | "comment" => .comment
  | name => .other name

/-- Whether a node of the kind defines a function or a class. -/
def isDefinition : NodeKind → Bool
  | .classDefinition | .functionDefinition => true
  | _ => false

end NodeKind

namespace Role

/-- The role with a name. -/
def ofText : String → Role
  | "name" => .name
  | "body" => .body
  | "definition" => .definition
  | "function" => .function
  | "object" => .object
  | "attribute" => .attribute
  | text => .other text

end Role

namespace Node

/-- What is known of the node. -/
def info : Node → NodeInfo
  | mk info _ => info

/-- The children in source order. -/
def children : Node → List Node
  | mk _ children => children

/-- What the node is. -/
def kind (node : Node) : NodeKind := node.info.kind

/-- Where the node starts. -/
def location (node : Node) : Location := node.info.location

/-- The children that are more than keywords and signs. -/
def namedChildren (node : Node) : List Node := node.children.filter (·.info.isNamed)

/-- The first child with a role. -/
def field? (node : Node) (role : Role) : Option Node :=
  node.children.find? fun child => child.info.role == some role

end Node

end TagAudit
