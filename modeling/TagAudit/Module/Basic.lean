/-
**The view of a source file that the checks look at.**

A module is its class definitions in source order, each with its name, its position, its markers
and its direct members, and the position of the first place where the source could not be read.

* `Location` is ordered by line, then by column;
* `Marker` is a decorator of the shape `namespace.method` or `namespace.method(...)`.
-/

namespace TagAudit

/-- A position in a source file; lines and byte columns count from one. -/
structure Location where
  line : Nat
  column : Nat
deriving Repr, DecidableEq, Inhabited

namespace Location

/-- `first` does not come after `second`: lines decide, then columns. -/
def le (first second : Location) : Bool :=
  first.line < second.line || (first.line == second.line && first.column ≤ second.column)

end Location

/-- A decorator that names a method of a namespace, called or only mentioned. -/
structure Marker where
  space : String
  method : String
  isCall : Bool
deriving Repr, DecidableEq

/-- A direct member of a class body: a function or a nested class. -/
structure MemberDef where
  name : Option String
  location : Location
  markers : List Marker
deriving Repr, DecidableEq

/-- A class definition with the members of its body in source order. -/
structure ClassDef where
  name : Option String
  location : Location
  markers : List Marker
  members : List MemberDef
deriving Repr, DecidableEq

/-- The classes of a source file in source order, and its first error. -/
structure Module where
  classes : List ClassDef
  firstError : Option Location
deriving Repr, DecidableEq

end TagAudit
