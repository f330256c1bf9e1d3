/-
**The checks.**

A check looks at one class at a time and reports diagnostics; every registered check sees every
class. What the checks report is put in the order of the positions, and what stands at the same
position stays in the order in which it was reported.

* `Check.classTags` looks at the class itself;
* `Check.methodTags` looks at the direct members of the class, whether or not the class itself is
  selected;
* `checkModule` runs a list of checks over a module.
-/

import TagAudit.Check.Diagnostic
import TagAudit.Pattern.Name
import TagAudit.Settings.Basic
import TagAudit.Tags.Resolve

namespace TagAudit

/-- The diagnostic for one definition: there is one if the definition has a name that the pattern
selects and misses tags of the tree. -/
def checkDefinition (kind : DiagnosticKind) (pattern : NamePattern) (tree : Option String)
    (strict : Bool) (name : Option String) (location : Location) (markers : List Marker) :
    Option Diagnostic := do
  let name ← name
  if pattern.selects name then
    let missing ← missingTags markers tree strict
    some (Diagnostic.ofMissing kind location name (tree.getD "") missing)
  else none

/-- The checks that can be registered. -/
inductive Check where
  | classTags
  | methodTags
deriving Repr, DecidableEq

namespace Check

/-- The name under which a check is registered. -/
def name : Check → String
  | classTags => "class-tag-tree"
  | methodTags => "method-tag-tree"

/-- The checks of every run, in the order in which they see a class. -/
def registered : List Check := [classTags, methodTags]

/-- What a check reports for one class. -/
def report (settings : Settings) (check : Check) (definition : ClassDef) : List Diagnostic :=
  match check with
  | classTags =>
    (checkDefinition .classTags (NamePattern.ofText settings.testClassName)
      settings.classTagTree settings.strictTree
      definition.name definition.location definition.markers).toList
  | methodTags =>
    let pattern := NamePattern.ofText settings.testMethodName
    definition.members.filterMap fun member =>
      checkDefinition .methodTags pattern settings.methodTagTree settings.strictTree
        member.name member.location member.markers

end Check

/-- Everything that the checks report, class by class. -/
def reports (settings : Settings) (checks : List Check) (classes : List ClassDef) :
    List Diagnostic :=
  classes.flatMap fun definition => checks.flatMap fun check => check.report settings definition

/-- The reports of a module in the order of their positions. -/
def checkModule (settings : Settings) (checks : List Check) (module : Module) : List Diagnostic :=
  (reports settings checks module.classes).mergeSort fun first second =>
    first.location.le second.location

end TagAudit
