/-
**The checks find exactly the definitions at fault.**

The definitions of a module that a run looks at are its sites: class by class the class itself and
then its members, whatever the class is called. A site is at fault if it has a name that the
pattern for its kind selects and if tags of the tree for its kind are missing.

* `reports_registered`: what the checks report is, site by site, the finding of the site;
* `Site.forall₂_findings`: the findings tell of the sites at fault one by one;
* `map_snd_findingsOf`, `map_fst_findingsOf`: the report of a module, each diagnostic together with
  the thing that its site stands for;
* `checkModule_tells_sites_at_fault`: the report of a module has one diagnostic for each site at
  fault and no other, in the order of positions, with sites at one position in the order of their
  visit.
-/

import Mathlib.Data.List.Forall2
import TagAudit.Proofs.Positions

namespace TagAudit

/-- The tree that definitions of a kind are checked against. -/
def Settings.treeFor (settings : Settings) : DiagnosticKind → Option String
  | .classTags => settings.classTagTree
  | .methodTags => settings.methodTagTree

/-- The pattern that selects definitions of a kind. -/
def Settings.patternFor (settings : Settings) : DiagnosticKind → NamePattern
  | .classTags => NamePattern.ofText settings.testClassName
  | .methodTags => NamePattern.ofText settings.testMethodName

/-- A definition that a run looks at, and what it is looked at as. -/
structure Site where
  kind : DiagnosticKind
  name : Option String
  location : Location
  markers : List Marker

/-- The class itself and then its members in source order. -/
def ClassDef.sites (definition : ClassDef) : List Site :=
  ⟨.classTags, definition.name, definition.location, definition.markers⟩ ::
    definition.members.map fun member =>
      ⟨.methodTags, member.name, member.location, member.markers⟩

/-- The sites of a module in the order in which a run visits them. -/
def Module.sites (module : Module) : List Site := module.classes.flatMap ClassDef.sites

namespace Site

/-- The tags that the site misses, if it is not accepted. -/
def missing? (settings : Settings) (site : Site) : Option (List String) :=
  missingTags site.markers (settings.treeFor site.kind) settings.strictTree

/-- The site has a name that the pattern for its kind selects, and it misses tags. -/
def isAtFault (settings : Settings) (site : Site) : Bool :=
  site.name.any (settings.patternFor site.kind).selects && (site.missing? settings).isSome

/-- The diagnostic tells of the site: its kind and code, its position and name, the tree as it is
set and the missing tags joined by commas. -/
structure Tells (settings : Settings) (site : Site) (diagnostic : Diagnostic) : Prop where
  kind : diagnostic.kind = site.kind
  code : diagnostic.code = match site.kind with
    | .classTags => "AL001"
    | .methodTags => "AL002"
  location : diagnostic.location = site.location
  name : some diagnostic.name = site.name
  tree : some diagnostic.tree = settings.treeFor site.kind
  missing : ∃ tags, site.missing? settings = some tags ∧
    diagnostic.missing = String.intercalate "," tags

/-! ### The finding of a site -/

/-- What the checks report for the site. -/
def finding? (settings : Settings) (site : Site) : Option Diagnostic :=
  checkDefinition site.kind (settings.patternFor site.kind) (settings.treeFor site.kind)
    settings.strictTree site.name site.location site.markers

/-- Tags can only be missing if there is a tree. -/
theorem tree_of_missing? {settings : Settings} {site : Site} {tags : List String}
    (missing : site.missing? settings = some tags) :
    ∃ tree, settings.treeFor site.kind = some tree := by
  cases tree : settings.treeFor site.kind with
  | none => simp [missing?, missingTags, tree] at missing
  | some text => exact ⟨text, rfl⟩

/-- A site has a finding if and only if it is at fault. -/
theorem isSome_finding? (settings : Settings) (site : Site) :
    (site.finding? settings).isSome = site.isAtFault settings := by
  cases named : site.name with
  | none => simp [finding?, checkDefinition, isAtFault, named]
  | some name =>
    by_cases selected : (settings.patternFor site.kind).selects name = true
    · cases missing : missingTags site.markers (settings.treeFor site.kind)
          settings.strictTree <;>
        simp [finding?, checkDefinition, isAtFault, missing?, named, selected, missing]
    · simp [finding?, checkDefinition, isAtFault, named, selected]

/-- The finding of a site tells of it. -/
theorem tells_of_finding? {settings : Settings} {site : Site} {diagnostic : Diagnostic}
    (found : site.finding? settings = some diagnostic) : site.Tells settings diagnostic := by
  obtain ⟨name, named, found⟩ := Option.bind_eq_some_iff.mp found
  by_cases selected : (settings.patternFor site.kind).selects name = true
  · rw [if_pos selected] at found
    obtain ⟨tags, missing, found⟩ := Option.bind_eq_some_iff.mp found
    obtain ⟨tree, isTree⟩ := tree_of_missing? missing
    obtain rfl := Option.some.inj found
    refine ⟨rfl, ?_, rfl, named.symm, ?_, tags, missing, rfl⟩
    · cases kind : site.kind <;>
        simp [Diagnostic.code, Diagnostic.ofMissing, DiagnosticKind.code]
    · rw [isTree]
      rfl
  · rw [if_neg selected] at found
    cases found

/-- **The findings of some sites tell of those at fault, one by one.** -/
theorem forall₂_findings (settings : Settings) (sites : List Site) :
    List.Forall₂ (Tells settings) (sites.filter (isAtFault settings))
      (sites.filterMap (finding? settings)) := by
  induction sites with
  | nil => exact List.Forall₂.nil
  | cons site rest step =>
    have agree := isSome_finding? settings site
    cases found : site.finding? settings with
    | none =>
      rw [found] at agree
      rw [List.filterMap_cons_none found, List.filter_cons_of_neg (by simp [← agree])]
      exact step
    | some diagnostic =>
      rw [found] at agree
      rw [List.filterMap_cons_some found, List.filter_cons_of_pos (by simp [← agree])]
      exact List.Forall₂.cons (tells_of_finding? found) step

end Site

/-! ### All sites of a module -/

/-- What the registered checks report for a class is what they find at its sites. -/
theorem report_registered (settings : Settings) (definition : ClassDef) :
    (Check.registered.flatMap fun check => check.report settings definition) =
      definition.sites.filterMap (Site.finding? settings) := by
  have methods : definition.members.filterMap (fun member =>
        checkDefinition .methodTags (NamePattern.ofText settings.testMethodName)
          settings.methodTagTree settings.strictTree member.name member.location member.markers) =
      (definition.members.map fun member : MemberDef =>
        (⟨.methodTags, member.name, member.location, member.markers⟩ : Site)).filterMap
          (Site.finding? settings) := by
    rw [List.filterMap_map]
    rfl
  simp only [Check.registered, List.flatMap_cons, List.flatMap_nil, List.append_nil, Check.report]
  rw [methods, ClassDef.sites, ← List.singleton_append, List.filterMap_append]
  rfl

/-- What the registered checks report for a module is what they find at its sites. -/
theorem reports_registered (settings : Settings) (module : Module) :
    reports settings Check.registered module.classes =
      module.sites.filterMap (Site.finding? settings) := by
  rw [reports, Module.sites, List.filterMap_flatMap]
  simp only [report_registered]

/-! ### Findings together with what they tell of -/

section FindingsOf

variable {α : Type} (settings : Settings) (siteOf : α → Site) (things : List α)

/-- The things whose site has a finding, each with the finding, in the order of positions. -/
def findingsOf : List (α × Diagnostic) :=
  sortByPlace (fun found => found.2.location) (things.filterMap fun thing =>
    ((siteOf thing).finding? settings).map fun diagnostic => (thing, diagnostic))

/-- Where the things stand for the sites of a module, their findings are its report. -/
theorem map_snd_findingsOf {module : Module} (isSites : things.map siteOf = module.sites) :
    (findingsOf settings siteOf things).map Prod.snd =
      checkModule settings Check.registered module := by
  rw [findingsOf, map_sortByPlace _ Prod.snd Diagnostic.location fun _ => rfl, List.map_filterMap,
    checkModule_eq, reports_registered, ← isSites, List.filterMap_map]
  congr 2
  funext thing
  simp only [Option.map_map, Function.comp_apply]
  exact Option.map_id_apply

/-- The things with a finding are those whose site is at fault. -/
theorem map_fst_findingsOf :
    ((findingsOf settings siteOf things).map Prod.fst).Perm
      (things.filter fun thing => (siteOf thing).isAtFault settings) := by
  refine ((sortByPlace_perm _ _).map Prod.fst).trans (List.Perm.of_eq ?_)
  rw [List.map_filterMap, ← List.filterMap_eq_filter]
  congr 1
  funext thing
  rw [Option.guard, ← Site.isSome_finding?]
  cases (siteOf thing).finding? settings <;> rfl

variable {settings siteOf things}

/-- What stands with a finding is a thing with that finding. -/
theorem finding?_of_mem_findingsOf {found : α × Diagnostic}
    (member : found ∈ findingsOf settings siteOf things) :
    found.1 ∈ things ∧ (siteOf found.1).finding? settings = some found.2 := by
  obtain ⟨thing, isThing, made⟩ := List.mem_filterMap.mp ((sortByPlace_perm _ _).mem_iff.mp member)
  obtain ⟨diagnostic, isFound, rfl⟩ := Option.map_eq_some_iff.mp made
  exact ⟨isThing, isFound⟩

end FindingsOf

/-- **The report of a module tells of the sites at fault and of nothing else.** Each site at fault
has one diagnostic; the diagnostics are in the order of positions, and those at one position are in
the order in which their sites are visited. -/
theorem checkModule_tells_sites_at_fault (settings : Settings) (module : Module) :
    ∃ found : List Diagnostic,
      List.Forall₂ (Site.Tells settings) (module.sites.filter (Site.isAtFault settings)) found ∧
      (checkModule settings Check.registered module).Perm found ∧
      (checkModule settings Check.registered module).Pairwise (fun first second =>
        first.location.key ≤ second.location.key) ∧
      ∀ place, (checkModule settings Check.registered module).filter (·.location = place) =
        found.filter (·.location = place) := by
  refine ⟨reports settings Check.registered module.classes, ?_, ?_, ?_, ?_⟩
  · rw [reports_registered]
    exact Site.forall₂_findings settings module.sites
  · exact checkModule_perm settings Check.registered module
  · exact checkModule_sorted settings Check.registered module
  · exact checkModule_filter_location settings Check.registered module

end TagAudit
