/-
**The outline of a source.**

An audit looks at class definitions, their markers and their direct members. Classes are collected
from the top down through functions and compound statements; the inside of a class is only
searched for its direct members.

* `Node.collectClasses` collects the classes below a node;
* `Node.markers` reads the markers off the decorators of a definition;
* `Node.firstError?` is the first node with which something is wrong;
* `Node.outline` puts the module together.
-/

import TagAudit.Module.Node

namespace TagAudit

namespace Node

/-! ### Markers -/

/-- The two names of an attribute of a plain name. -/
def attributeNames? (node : Node) : Option (String × String) := do
  let object ← node.field? .object
  if object.kind = .identifier then
    let name ← node.field? .attribute
    return (← object.info.text, ← name.info.text)
  else none

mutual

/-- The marker that an expression stands for: an attribute of a plain name, called or only
mentioned, in any number of parentheses. -/
def marker? : Node → Option Marker
  | mk info children =>
    match info.kind with
    | .call => do
      let function ← (mk info children).field? .function
      if function.kind = .attribute then
        let (space, method) ← function.attributeNames?
        return ⟨space, method, true⟩
      else none
    | .attribute => do
      let (space, method) ← (mk info children).attributeNames?
      return ⟨space, method, false⟩
    | .parenthesizedExpression => firstNamedMarker? children
    | _ => none

/-- The marker that the first named one of some nodes stands for. -/
def firstNamedMarker? : List Node → Option Marker
  | [] => none
  | node :: rest => if node.info.isNamed then marker? node else firstNamedMarker? rest

end

/-- The expression of a decorator: its first named child that is no comment. -/
def decoratorExpression? (decorator : Node) : Option Node :=
  decorator.namedChildren.find? (·.kind != .comment)

/-- The markers of a decorated definition in source order. -/
def markers (decorated : Node) : List Marker :=
  (decorated.namedChildren.filter (·.kind == .decorator)).filterMap fun decorator =>
    decorator.decoratorExpression?.bind marker?

/-! ### Definitions -/

/-- The name of a definition. -/
def definedName? (node : Node) : Option String := (node.field? .name).bind (·.info.text)

/-- A definition as a member of a class. -/
def toMember (markers : List Marker) (node : Node) : MemberDef :=
  ⟨node.definedName?, node.location, markers⟩

/-- The member that a child of a class body defines, if it defines one. -/
def member? (node : Node) : Option MemberDef :=
  match node.kind with
  | .functionDefinition | .classDefinition => some (node.toMember [])
  | .decoratedDefinition =>
    ((node.field? .definition).filter (·.kind.isDefinition)).map (toMember node.markers)
  | _ => none

/-- The members of a class body in source order. -/
def members (body : Node) : List MemberDef := body.namedChildren.filterMap member?

/-- A class definition with its markers. -/
def toClass (markers : List Marker) (node : Node) : ClassDef :=
  { name := node.definedName?
    location := node.location
    markers := markers
    members := ((node.field? .body).map members).getD [] }

/-- The class that a node stands for together with its decorators, if it stands for one. -/
def class? (node : Node) : Option ClassDef :=
  match node.kind with
  | .classDefinition => some (node.toClass [])
  | .decoratedDefinition =>
    ((node.field? .definition).filter (·.kind == .classDefinition)).map (toClass node.markers)
  | _ => none

mutual

/-- The classes below a node in source order, those inside of others left out. -/
def collectClasses : Node → List ClassDef
  | mk _ children => collectAmong children

/-- The classes among some nodes and below them. -/
def collectAmong : List Node → List ClassDef
  | [] => []
  | node :: rest =>
    match node.class? with
    | some found => found :: collectAmong rest
    | none => collectClasses node ++ collectAmong rest

end

/-! ### Errors -/

mutual

/-- The first node in source order with which something is wrong. Nodes without errors inside are
not searched. -/
def firstError? : Node → Option Node
  | mk info children =>
    if info.isError || info.isMissing then some (mk info children)
    else if info.hasError then firstErrorAmong? children
    else none

/-- The first node among some and below them with which something is wrong. -/
def firstErrorAmong? : List Node → Option Node
  | [] => none
  | node :: rest => (firstError? node).or (firstErrorAmong? rest)

end

/-- What an audit looks at: the classes and the first error. -/
def outline (root : Node) : Module :=
  ⟨root.collectClasses, root.firstError?.map (·.location)⟩

end Node

end TagAudit
