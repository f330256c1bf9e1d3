/-
**Paths.**

A path is a text with slashes. Two paths count as equal if they have the same components: empty
pieces count for nothing, and neither does a lone dot except at the very start.

* `components` reads a path, `Path.le` orders paths component by component: the root first, then
  a dot, then two dots, then names in the order of their characters;
* `Path.join` puts a name behind a path;
* `Path.extension?` is what follows the last dot of the last name.
-/

import TagAudit.Tags.Tree

namespace TagAudit

/-- One component of a path. -/
inductive Component where
  | root
  | here
  | parent
  | name (text : String)
deriving Repr, DecidableEq

namespace Component

/-- The place of the kind of a component in the order of components. -/
def rank : Component → Nat
  | root => 0
  | here => 1
  | parent => 2
  | name _ => 3

/-- The first component comes strictly before the second. -/
def lt (first second : Component) : Bool :=
  match first, second with
  | name first, name second => first < second
  | first, second => first.rank < second.rank

end Component

namespace Path

/-- The pieces of a path between its slashes. -/
def steps (path : String) : List String := (pieces '/' path.toList).map String.ofList

/-- A path that starts at the root. -/
def isAbsolute (path : String) : Bool := path.toList.head? == some '/'

/-- The component that a piece stands for if it is not in first position. -/
def inner? (piece : String) : Option Component :=
  if piece = "" || piece = "." then none
  else if piece = ".." then some .parent
  else some (.name piece)

/-- The components of a path. -/
def components (path : String) : List Component :=
  match steps path with
  | [] => []
  | first :: rest =>
    let lead : List Component :=
      if isAbsolute path then [.root]
      else if first = "." then [.here]
      else (inner? first).toList
    lead ++ rest.filterMap inner?

/-- The first list of components does not come after the second: the first difference decides,
and a list comes before its continuations. -/
def componentsLe : List Component → List Component → Bool
  | [], _ => true
  | _ :: _, [] => false
  | first :: firsts, second :: seconds =>
    if first.lt second then true
    else if second.lt first then false
    else componentsLe firsts seconds

/-- The first path does not come after the second. -/
def le (first second : String) : Bool := componentsLe (components first) (components second)

/-- The paths have the same components. -/
def same (first second : String) : Bool := components first == components second

/-- A relative path put behind a path; a slash is added unless one is there already. -/
def join (path below : String) : String :=
  if path.isEmpty then below
  else if path.toList.getLast? == some '/' then path ++ below
  else path ++ "/" ++ below

/-- The last component, if it is a name. -/
def fileName? (path : String) : Option String :=
  match (components path).getLast? with
  | some (.name text) => some text
  | _ => none

/-- What follows the last dot of a name, unless that dot is its first character. -/
def extensionOf? (name : String) : Option String :=
  let parts := pieces '.' name.toList
  match parts.dropLast, parts.getLast? with
  | [], _ => none
  | [[]], _ => none
  | _, some last => some (String.ofList last)
  | _, none => none

/-- The extension of the last name of a path. -/
def extension? (path : String) : Option String := (fileName? path).bind extensionOf?

end Path

end TagAudit
