/-
**The checks do not depend on each other.**

Every check looks at the sites of its own kind, whatever other checks are registered. What one
check reports is therefore found in the report of all checks as it stands, and settings that only
another check reads do not change it. If all sites have positions of their own, the report does not
depend on the order of the checks or of the classes either.

* `Check.report_eq`: what a check reports of a class are the findings at the sites of its kind;
* `checkModule_filter_code`: the diagnostics with the code of a check are what it reports alone;
* `checkModule_eq_of_perm`: with positions of their own, order does not matter;
* `checks_are_independent`: all of this for the registered checks.
-/

import Mathlib.Data.List.Nodup
import Mathlib.Data.List.Perm.Basic
import TagAudit.Proofs.Findings

namespace TagAudit

/-! ### One check by itself -/

/-- The kind of the sites that a check looks at. -/
def Check.kind : Check → DiagnosticKind
  | classTags => .classTags
  | methodTags => .methodTags

theorem DiagnosticKind.code_injective : Function.Injective DiagnosticKind.code := by
  intro first second same
  cases first <;> cases second <;> simp_all [code]

/-- A check reports what is found at the sites of its kind. -/
theorem Check.report_eq (settings : Settings) (check : Check) (definition : ClassDef) :
    check.report settings definition =
      (definition.sites.filter (·.kind = check.kind)).filterMap (Site.finding? settings) := by
  unfold ClassDef.sites
  cases check with
  | classTags =>
    rw [List.filter_cons_of_pos (by simp [kind]), List.filter_eq_nil_iff.mpr (by simp [kind])]
    show (Site.finding? settings ⟨.classTags, definition.name, definition.location,
      definition.markers⟩).toList = _
    rw [List.filterMap_cons, List.filterMap_nil]
    split
    next notFound => rw [notFound, Option.toList_none]
    next found => rw [found, Option.toList_some]
  | methodTags =>
    rw [List.filter_cons_of_neg (by simp [kind]), List.filter_eq_self.mpr (by simp [kind]),
      List.filterMap_map]
    rfl

section Alone

variable (settings : Settings) (check : Check)

/-- What a check reports by itself is what is found at the sites of its kind. -/
theorem reports_singleton (module : Module) :
    reports settings [check] module.classes =
      (module.sites.filter (·.kind = check.kind)).filterMap (Site.finding? settings) := by
  unfold reports Module.sites
  rw [List.filter_flatMap, List.filterMap_flatMap]
  congr 1
  funext definition
  rw [List.flatMap_cons, List.flatMap_nil, List.append_nil, Check.report_eq]

/-- A finding has the code of a check if and only if its site is of the kind of the check. -/
theorem Site.filter_code_finding? (site : Site) :
    (site.finding? settings).filter (·.code = check.kind.code) =
      if site.kind = check.kind then site.finding? settings else none := by
  cases found : site.finding? settings with
  | none => simp
  | some diagnostic =>
    have sameKind : diagnostic.kind = site.kind := (tells_of_finding? found).kind
    have sameCode : diagnostic.code = check.kind.code ↔ site.kind = check.kind := by
      rw [← sameKind]
      exact DiagnosticKind.code_injective.eq_iff
    by_cases ofKind : site.kind = check.kind
    · simp [Option.filter, sameCode, ofKind]
    · simp [Option.filter, sameCode, ofKind]

/-- **The diagnostics with the code of a check are what it reports by itself**, in the same
order. -/
theorem checkModule_filter_code (module : Module) :
    (checkModule settings Check.registered module).filter (·.code = check.kind.code) =
      checkModule settings [check] module := by
  rw [checkModule_eq, checkModule_eq, filter_sortByPlace, reports_registered, reports_singleton,
    List.filter_filterMap, List.filterMap_filter]
  congr 2
  funext site
  simp only [Site.filter_code_finding?, decide_eq_true_eq]

end Alone

/-! ### The order of checks and classes -/

/-- The positions of the sites are those of the classes and of their members. -/
theorem Module.map_location_sites (module : Module) :
    module.sites.map Site.location = module.classes.flatMap fun definition =>
      definition.location :: definition.members.map MemberDef.location := by
  unfold Module.sites ClassDef.sites
  rw [List.map_flatMap]
  congr 1
  funext definition
  rw [List.map_cons, List.map_map]
  rfl

/-- Whatever the checks report is found at a site. -/
theorem exists_site_of_mem_reports {settings : Settings} {checks : List Check} {module : Module}
    {diagnostic : Diagnostic} (member : diagnostic ∈ reports settings checks module.classes) :
    ∃ site ∈ module.sites, site.finding? settings = some diagnostic := by
  obtain ⟨definition, isClass, member⟩ := List.mem_flatMap.mp member
  obtain ⟨check, _, member⟩ := List.mem_flatMap.mp member
  rw [Check.report_eq] at member
  obtain ⟨site, isSite, found⟩ := List.mem_filterMap.mp member
  have inModule : site ∈ module.sites :=
    List.mem_flatMap.mpr ⟨definition, isClass, (List.mem_filter.mp isSite).1⟩
  exact ⟨site, inModule, found⟩

/-- Where sites have positions of their own, so have reports, but for repeated ones. -/
theorem eq_of_mem_reports {settings : Settings} {checks : List Check} {module : Module}
    (distinct : (module.sites.map Site.location).Nodup) {first second : Diagnostic}
    (isFirst : first ∈ reports settings checks module.classes)
    (isSecond : second ∈ reports settings checks module.classes)
    (samePlace : first.location = second.location) : first = second := by
  obtain ⟨site, isSite, found⟩ := exists_site_of_mem_reports isFirst
  obtain ⟨other, isOther, otherFound⟩ := exists_site_of_mem_reports isSecond
  have sameSite : site = other := by
    refine List.inj_on_of_nodup_map distinct isSite isOther ?_
    rw [← (Site.tells_of_finding? found).location, samePlace,
      (Site.tells_of_finding? otherFound).location]
  rw [sameSite, otherFound] at found
  exact (Option.some.inj found).symm

/-- Checks and classes in another order report the same in another order. -/
theorem reports_perm (settings : Settings) {checks otherChecks : List Check}
    {classes otherClasses : List ClassDef} (sameChecks : checks.Perm otherChecks)
    (sameClasses : classes.Perm otherClasses) :
    (reports settings checks classes).Perm (reports settings otherChecks otherClasses) :=
  sameClasses.flatMap fun _ _ => sameChecks.flatMap_right _

/-- **Where sites have positions of their own, the order of checks and classes does not matter.** -/
theorem checkModule_eq_of_perm (settings : Settings) (module : Module)
    (distinct : (module.sites.map Site.location).Nodup) {checks otherChecks : List Check}
    {classes : List ClassDef} (sameChecks : checks.Perm otherChecks)
    (sameClasses : classes.Perm module.classes) :
    checkModule settings checks { module with classes := classes } =
      checkModule settings otherChecks module := by
  have perm : (checkModule settings checks { module with classes := classes }).Perm
      (checkModule settings otherChecks module) :=
    ((checkModule_perm settings checks _).trans (reports_perm settings sameChecks sameClasses)).trans
      (checkModule_perm settings otherChecks module).symm
  have reported : ∀ diagnostic ∈ checkModule settings otherChecks module,
      diagnostic ∈ reports settings otherChecks module.classes := fun _ member =>
    (checkModule_perm settings otherChecks module).mem_iff.mp member
  refine List.Perm.eq_of_pairwise ?_ (checkModule_sorted settings checks _)
    (checkModule_sorted settings otherChecks module) perm
  intro first second isFirst isSecond before after
  refine eq_of_mem_reports distinct (reported first (perm.mem_iff.mp isFirst))
    (reported second isSecond) ?_
  exact Location.key_injective (le_antisymm before after)

/-- **The registered checks are independent of each other.** The diagnostics of each are what it
reports by itself, and the settings that only the other one reads do not change them. If all classes
and members have positions of their own, the order of the checks and the order of the classes do not
matter. -/
theorem checks_are_independent (settings : Settings) (module : Module) :
    (checkModule settings Check.registered module).filter (·.code = "AL001") =
      checkModule settings [.classTags] module ∧
    (checkModule settings Check.registered module).filter (·.code = "AL002") =
      checkModule settings [.methodTags] module ∧
    (∀ tree pattern,
      (checkModule { settings with methodTagTree := tree, testMethodName := pattern }
        Check.registered module).filter (·.code = "AL001") =
      (checkModule settings Check.registered module).filter (·.code = "AL001")) ∧
    (∀ tree pattern,
      (checkModule { settings with classTagTree := tree, testClassName := pattern }
        Check.registered module).filter (·.code = "AL002") =
      (checkModule settings Check.registered module).filter (·.code = "AL002")) ∧
    ((module.classes.flatMap fun definition =>
        definition.location :: definition.members.map MemberDef.location).Nodup →
      ∀ (checks otherChecks : List Check) (classes : List ClassDef),
        checks.Perm otherChecks → classes.Perm module.classes →
        checkModule settings checks { module with classes := classes } =
          checkModule settings otherChecks module) := by
  have classes : ∀ settings, (checkModule settings Check.registered module).filter
      (·.code = "AL001") = checkModule settings [.classTags] module := fun settings =>
    checkModule_filter_code settings .classTags module
  have methods : ∀ settings, (checkModule settings Check.registered module).filter
      (·.code = "AL002") = checkModule settings [.methodTags] module := fun settings =>
    checkModule_filter_code settings .methodTags module
  refine ⟨classes settings, methods settings, ?_, ?_, ?_⟩
  · intro tree pattern
    rw [classes, classes]
    rfl
  · intro tree pattern
    rw [methods, methods]
    rfl
  · intro distinct checks otherChecks reordered sameChecks sameClasses
    rw [← Module.map_location_sites] at distinct
    exact checkModule_eq_of_perm settings module distinct sameChecks sameClasses

/-- Two classes whose members, one of them nested, all start on lines of their own. -/
def orderedModule : Module :=
  { classes :=
      [{ name := some "TestCart", location := ⟨2, 1⟩, markers := [⟨"allure", "story", true⟩],
         members :=
           [⟨some "test_add", ⟨4, 5⟩, [⟨"allure", "tag", true⟩]⟩, ⟨some "Nested", ⟨7, 5⟩, []⟩] },
       { name := some "TestLogin", location := ⟨10, 1⟩, markers := [⟨"allure", "tag", false⟩],
         members := [⟨some "test_login", ⟨12, 5⟩, [⟨"allure", "title", true⟩]⟩] }]
    firstError := none }

theorem checks_are_independent_reversed :
    (orderedModule.classes.flatMap fun definition =>
        definition.location :: definition.members.map MemberDef.location).Nodup ∧
      checkModule Settings.standard [.methodTags, .classTags]
          { orderedModule with classes := orderedModule.classes.reverse } =
        checkModule Settings.standard Check.registered orderedModule := by
  have distinct : (orderedModule.classes.flatMap fun definition =>
      definition.location :: definition.members.map MemberDef.location).Nodup := by decide
  refine ⟨distinct, ?_⟩
  obtain ⟨-, -, -, -, order⟩ := checks_are_independent Settings.standard orderedModule
  exact order distinct _ _ _ (List.Perm.swap _ _ _) (List.reverse_perm _)

end TagAudit
