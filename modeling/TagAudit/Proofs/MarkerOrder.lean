/-
**The order of markers does not matter, and neither do foreign markers.**

The markers of a definition provide tags, and each tag takes its first occurrence out of the tree.
What is left is the same for all orders of the markers. So two modules have the same report if their
definitions carry the same markers that provide tags, in any order and among any other markers.

* `removeProvided_eq_of_perm`: tags taken out in any order leave the same tags;
* `missingTags_eq_of_perm`: the missing tags depend on the recognized markers, not on their order;
* `Site.finding?_eq_of_markedAlike`, `Check.report_eq_of_markedAlike`: neither does a finding, nor
  what a check reports of a class;
* `checkModule_eq_of_markedAlike`: nor the report of a module.
-/

import Mathlib.Data.List.Forall2
import TagAudit.Proofs.Independence

namespace TagAudit

/-- The markers that provide tags are the same in both lists, in any order. -/
def SameTags (markers others : List Marker) : Prop :=
  (markers.filter Marker.isRecognized).Perm (others.filter Marker.isRecognized)

instance (markers others : List Marker) : Decidable (SameTags markers others) :=
  inferInstanceAs (Decidable (List.Perm _ _))

/-- Two members that differ only in the order of their markers and in foreign markers. -/
structure MemberDef.MarkedAlike (member other : MemberDef) : Prop where
  name : member.name = other.name
  location : member.location = other.location
  markers : SameTags member.markers other.markers

/-- Two classes, with the same members in the same order, that differ only in the order of markers
and in foreign markers. -/
structure ClassDef.MarkedAlike (definition other : ClassDef) : Prop where
  name : definition.name = other.name
  location : definition.location = other.location
  markers : SameTags definition.markers other.markers
  members : List.Forall₂ MemberDef.MarkedAlike definition.members other.members

/-! ### The tags that are missing -/

/-- Tags taken out of a tree in any order leave the same tags. -/
theorem removeProvided_eq_of_perm (required : List String) {provided others : List String}
    (same : provided.Perm others) :
    removeProvided required provided = removeProvided required others := by
  unfold removeProvided
  rw [← List.diff_eq_foldl, ← List.diff_eq_foldl]
  exact same.diff_left required

/-- **The missing tags do not depend on the order of the markers**, nor on foreign markers. -/
theorem missingTags_eq_of_perm {markers others : List Marker} (same : SameTags markers others)
    (tree : Option String) (strict : Bool) :
    missingTags markers tree strict = missingTags others tree strict := by
  have provided : (providedTags markers).Perm (providedTags others) := same.map Marker.method
  have bothEmpty : (providedTags markers).isEmpty = (providedTags others).isEmpty :=
    provided.isEmpty_eq
  unfold missingTags
  simp only [bothEmpty, removeProvided_eq_of_perm _ provided]

/-! ### From sites to the report of a module -/

/-- Two sites that differ only in the order of their markers and in foreign markers. -/
structure Site.MarkedAlike (site other : Site) : Prop where
  kind : site.kind = other.kind
  name : site.name = other.name
  location : site.location = other.location
  markers : SameTags site.markers other.markers

section Alike

variable (settings : Settings)

theorem Site.finding?_eq_of_markedAlike {site other : Site} (alike : site.MarkedAlike other) :
    site.finding? settings = other.finding? settings := by
  unfold finding? checkDefinition
  rw [alike.kind, alike.name, alike.location]
  simp only [missingTags_eq_of_perm alike.markers]

/-- The sites of two such classes are alike, one by one. -/
theorem ClassDef.MarkedAlike.sites {definition other : ClassDef}
    (alike : definition.MarkedAlike other) :
    List.Forall₂ Site.MarkedAlike definition.sites other.sites := by
  unfold ClassDef.sites
  refine List.Forall₂.cons ⟨rfl, alike.name, alike.location, alike.markers⟩ ?_
  rw [List.forall₂_map_left_iff, List.forall₂_map_right_iff]
  exact alike.members.imp fun member other alike =>
    ⟨rfl, alike.name, alike.location, alike.markers⟩

/-- Sites that are alike have the same findings among those of any kind. -/
theorem filterMap_finding?_eq_of_markedAlike {sites others : List Site}
    (alike : List.Forall₂ Site.MarkedAlike sites others) (kind : DiagnosticKind) :
    (sites.filter (·.kind = kind)).filterMap (Site.finding? settings) =
      (others.filter (·.kind = kind)).filterMap (Site.finding? settings) := by
  induction alike with
  | nil => rfl
  | @cons site other sites others alike _ step =>
    rw [List.filter_cons, List.filter_cons, alike.kind]
    split
    · rw [List.filterMap_cons, List.filterMap_cons, Site.finding?_eq_of_markedAlike settings alike,
        step]
    · exact step

theorem Check.report_eq_of_markedAlike (check : Check) {definition other : ClassDef}
    (alike : definition.MarkedAlike other) :
    check.report settings definition = check.report settings other := by
  rw [Check.report_eq, Check.report_eq]
  exact filterMap_finding?_eq_of_markedAlike settings alike.sites check.kind

theorem reports_eq_of_markedAlike (checks : List Check) {classes others : List ClassDef}
    (alike : List.Forall₂ ClassDef.MarkedAlike classes others) :
    reports settings checks classes = reports settings checks others := by
  unfold reports
  induction alike with
  | nil => rfl
  | @cons definition other _ _ alike _ step =>
    have sameReport : (checks.flatMap fun check => check.report settings definition) =
        checks.flatMap fun check => check.report settings other := by
      congr 1
      funext check
      exact check.report_eq_of_markedAlike settings alike
    rw [List.flatMap_cons, List.flatMap_cons, sameReport, step]

end Alike

/-- **Neither the order of markers nor foreign markers matter.** Two modules with the same classes
and members have the same report, whichever checks make it, if on every class and on every member
the markers that provide tags are the same in any order. -/
theorem checkModule_eq_of_markedAlike (settings : Settings) (checks : List Check)
    (module other : Module)
    (alike : List.Forall₂ ClassDef.MarkedAlike module.classes other.classes) :
    checkModule settings checks module = checkModule settings checks other := by
  rw [checkModule_eq, checkModule_eq, reports_eq_of_markedAlike settings checks alike]

/-- A class that repeats a marker, with one method. -/
def markedModule : Module :=
  { classes :=
      [{ name := some "TestCart", location := ⟨4, 1⟩
         markers := [⟨"allure", "tag", true⟩, ⟨"allure", "story", true⟩, ⟨"allure", "tag", true⟩]
         members := [⟨some "test_add", ⟨6, 5⟩, [⟨"allure", "title", true⟩]⟩] }]
    firstError := none }

/-- The same class with its markers in another order and foreign markers among them: one of another
namespace, and some that are mentioned but not called. -/
def remarkedModule : Module :=
  { classes :=
      [{ name := some "TestCart", location := ⟨4, 1⟩
         markers :=
           [⟨"allure", "story", true⟩, ⟨"allure", "label", false⟩, ⟨"allure", "tag", true⟩,
            ⟨"allure", "tag", true⟩]
         members :=
           [⟨some "test_add", ⟨6, 5⟩,
             [⟨"pytest", "tag", true⟩, ⟨"allure", "title", true⟩, ⟨"allure", "tag", false⟩]⟩] }]
    firstError := none }

theorem checkModule_eq_of_markedAlike_reordered :
    List.Forall₂ ClassDef.MarkedAlike markedModule.classes remarkedModule.classes ∧
      checkModule Settings.standard Check.registered markedModule =
        checkModule Settings.standard Check.registered remarkedModule := by
  have alike : List.Forall₂ ClassDef.MarkedAlike markedModule.classes remarkedModule.classes := by
    refine .cons ⟨rfl, rfl, by decide, .cons ⟨rfl, rfl, by decide⟩ .nil⟩ .nil
  exact ⟨alike, checkModule_eq_of_markedAlike Settings.standard Check.registered markedModule
    remarkedModule alike⟩

end TagAudit
