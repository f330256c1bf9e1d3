/-
**Settings.**

Settings come in layers: a layer leaves some keys open, and a later layer decides over an earlier
one. The keys that no layer sets take their defaults.

* `Layer.onTopOf` puts one layer on top of another;
* `Layer.settings` fills the open keys. A tag tree that is set to the empty text asks for nothing.
-/

namespace TagAudit

/-- The settings of a run; a tree that is `none` turns its check off. -/
structure Settings where
  classTagTree : Option String
  methodTagTree : Option String
  testClassName : String
  testMethodName : String
  strictTree : Bool
deriving Repr, DecidableEq

namespace Settings

/-- What holds if nothing is set. -/
def standard : Settings where
  classTagTree := some "feature>story>label>tag"
  methodTagTree := some "title>tag"
  testClassName := "Test*"
  testMethodName := "test_*"
  strictTree := false

end Settings

/-- One layer of settings; open keys are `none`. -/
structure Layer where
  classTagTree : Option String := none
  methodTagTree : Option String := none
  testClassName : Option String := none
  testMethodName : Option String := none
  strictTree : Option Bool := none
deriving Repr, DecidableEq

namespace Layer

/-- The layer that leaves every key open. -/
def empty : Layer := {}

/-- `upper` on top of `lower`: a key that `upper` leaves open is decided by `lower`. -/
def onTopOf (upper lower : Layer) : Layer where
  classTagTree := upper.classTagTree.or lower.classTagTree
  methodTagTree := upper.methodTagTree.or lower.methodTagTree
  testClassName := upper.testClassName.or lower.testClassName
  testMethodName := upper.testMethodName.or lower.testMethodName
  strictTree := upper.strictTree.or lower.strictTree

/-- The tree that a key stands for: the empty text asks for nothing, an open key for the
standard tree. -/
def treeOr (value standard : Option String) : Option String :=
  match value with
  | some tree => if tree.isEmpty then none else some tree
  | none => standard

/-- The settings of a layer on top of the standard ones. -/
def settings (layer : Layer) : Settings where
  classTagTree := treeOr layer.classTagTree Settings.standard.classTagTree
  methodTagTree := treeOr layer.methodTagTree Settings.standard.methodTagTree
  testClassName := layer.testClassName.getD Settings.standard.testClassName
  testMethodName := layer.testMethodName.getD Settings.standard.testMethodName
  strictTree := layer.strictTree.getD Settings.standard.strictTree

/-- Layers laid one on top of the other, the last one uppermost. -/
def stack (layers : List Layer) : Layer :=
  layers.foldl (fun lower upper => upper.onTopOf lower) empty

end Layer

end TagAudit
