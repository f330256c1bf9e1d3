/-
**Which tags a definition is missing.**

Every recognized marker of a definition provides one occurrence of its method name as a tag. What
is left of the required tree, in the order of the tree, is missing.

* `Marker.isRecognized`: only called markers of the namespace `allure` provide tags;
* `missingTags`: the tags left over, or `none` if the definition is accepted.
-/

import TagAudit.Module.Basic
import TagAudit.Tags.Tree

namespace TagAudit

/-- The namespace whose markers provide tags. -/
def recognizedNamespace : String := "allure"

/-- A marker provides its tag if it is a call in the recognized namespace. -/
def Marker.isRecognized (marker : Marker) : Bool :=
  marker.isCall && marker.space == recognizedNamespace

/-- The tags that a list of markers provides, one per recognized marker. -/
def providedTags (markers : List Marker) : List String :=
  (markers.filter Marker.isRecognized).map Marker.method

/-- The required tags after each provided tag has removed its first occurrence. -/
def removeProvided (required provided : List String) : List String :=
  provided.foldl List.erase required

/-- The tags of `tree` that the markers leave open, or `none` if nothing is required, if nothing
is left open, or if there is no recognized marker and the check is not strict. -/
def missingTags (markers : List Marker) (tree : Option String) (strict : Bool) :
    Option (List String) := do
  let required ← TagTree.parse? (← tree)
  let provided := providedTags markers
  if provided.isEmpty && !strict then none
  else
    let left := removeProvided required.tags provided
    if left.isEmpty then none else some left

end TagAudit
