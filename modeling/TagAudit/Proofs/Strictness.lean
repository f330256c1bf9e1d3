/-
**What a strict audit adds.**

A definition without a marker that provides a tag is accepted unless the audit is strict. A strict
audit of a module finds what one that is not strict finds, in the same order, and besides that the
definitions without such a marker, all tags of whose tree are missing.

* `missingTags_of_provided`, `missingTags_of_none_provided`: where strictness decides, and where it
  does not;
* `Site.finding?_notStrict`: the finding of a site under both;
* `strict_adds_unmarked`: the report of a module under both.
-/

import TagAudit.Proofs.Findings
import TagAudit.Proofs.WrittenTrees

namespace TagAudit

/-! ### The tags that are missing -/

/-- Strictness does not matter for markers that provide a tag. -/
theorem missingTags_of_provided {markers : List Marker} (provided : providedTags markers ≠ [])
    (tree : Option String) (strict otherwise : Bool) :
    missingTags markers tree strict = missingTags markers tree otherwise := by
  have notEmpty : (providedTags markers).isEmpty = false := by
    rw [List.isEmpty_eq_false_iff]
    exact provided
  simp only [missingTags, notEmpty, Bool.false_and]

/-- Without a marker that provides a tag, all tags are missing if the audit is strict, and none if
it is not. -/
theorem missingTags_of_none_provided {markers : List Marker} (provided : providedTags markers = [])
    (tree : Option String) (strict : Bool) :
    missingTags markers tree strict =
      if strict then (tree.bind TagTree.parse?).map TagTree.tags else none := by
  cases tree with
  | none => simp [missingTags]
  | some text =>
    cases read : TagTree.parse? text with
    | none => simp [missingTags, read]
    | some tree =>
      have someTag : tree.tags ≠ [] := (TagTree.isWritable_of_parse? read).someTag
      cases strict <;> simp [missingTags, read, provided, removeProvided, someTag]

/-! ### The findings of a site -/

namespace Settings

/-- The settings, made strict. -/
def strict (settings : Settings) : Settings := { settings with strictTree := true }

/-- The settings, made not strict. -/
def notStrict (settings : Settings) : Settings := { settings with strictTree := false }

end Settings

namespace Site

/-- The site carries a marker that provides a tag. -/
def isMarked (site : Site) : Bool := site.markers.any Marker.isRecognized

theorem isMarked_iff (site : Site) : site.isMarked = true ↔ providedTags site.markers ≠ [] := by
  unfold isMarked providedTags
  rw [Ne, List.map_eq_nil_iff, List.filter_eq_nil_iff, List.any_eq_true]
  simp

theorem provided_of_unmarked {site : Site} (unmarked : site.isMarked = false) :
    providedTags site.markers = [] := by
  rw [← Bool.not_eq_true, isMarked_iff, not_not] at unmarked
  exact unmarked

/-- A site without a marker misses nothing unless the audit is strict. -/
theorem finding?_notStrict_of_unmarked (settings : Settings) {site : Site}
    (unmarked : site.isMarked = false) : site.finding? settings.notStrict = none := by
  have missing : site.missing? settings.notStrict = none :=
    missingTags_of_none_provided (provided_of_unmarked unmarked) _ false
  have noFault : site.isAtFault settings.notStrict = false := by
    rw [isAtFault, missing, Option.isSome_none, Bool.and_false]
  rw [← isSome_finding?, Option.isSome_eq_false_iff, Option.isNone_iff_eq_none] at noFault
  exact noFault

/-- **Strictness decides over the sites without a marker, and over no others.** -/
theorem finding?_notStrict (settings : Settings) (site : Site) :
    site.finding? settings.notStrict =
      if site.isMarked then site.finding? settings.strict else none := by
  by_cases marked : site.isMarked = true
  · have same : missingTags site.markers (settings.treeFor site.kind) false =
        missingTags site.markers (settings.treeFor site.kind) true :=
      missingTags_of_provided (site.isMarked_iff.mp marked) _ false true
    rw [if_pos marked]
    show checkDefinition _ _ (settings.treeFor site.kind) false _ _ _ =
      checkDefinition _ _ (settings.treeFor site.kind) true _ _ _
    unfold checkDefinition
    rw [same]
    rfl
  · rw [if_neg marked]
    exact finding?_notStrict_of_unmarked settings (Bool.eq_false_of_not_eq_true marked)

/-- What a strict audit tells of a site without a marker: all tags of the tree are missing. -/
theorem Tells.missing_all {settings : Settings} {site : Site} {diagnostic : Diagnostic}
    (tells : site.Tells settings.strict diagnostic) (unmarked : site.isMarked = false) :
    ∃ tree, TagTree.parse? diagnostic.tree = some tree ∧
      diagnostic.missing = String.intercalate "," tree.tags := by
  obtain ⟨tags, missing, told⟩ := tells.missing
  have all : site.missing? settings.strict =
      ((settings.strict.treeFor site.kind).bind TagTree.parse?).map TagTree.tags :=
    missingTags_of_none_provided (provided_of_unmarked unmarked) _ true
  rw [missing, ← tells.tree, Option.bind_some] at all
  obtain ⟨tree, read, same⟩ := Option.map_eq_some_iff.mp all.symm
  exact ⟨tree, read, by rw [told, same]⟩

end Site

/-! ### The findings of a module -/

/-- **Without strictness the findings at sites without a marker are left out, and no others.** -/
theorem findingsOf_notStrict (settings : Settings) (sites : List Site) :
    findingsOf settings.notStrict id sites =
      (findingsOf settings.strict id sites).filter fun found => found.1.isMarked := by
  rw [findingsOf, findingsOf, filter_sortByPlace, List.filter_filterMap]
  congr 2
  funext site
  rw [id_eq, Site.finding?_notStrict]
  cases site.finding? settings.strict with
  | none => simp
  | some diagnostic => cases marked : site.isMarked <;> simp [Option.filter, marked]

/-- **A strict audit only adds findings.** Paired with the sites at fault that they tell of, the
findings of a strict audit become those of an audit that is not strict by leaving out the ones at
sites without a marker that provides a tag; these name all tags of their tree as missing, in the
order of the tree. -/
theorem strict_adds_unmarked (settings : Settings) (module : Module) :
    ∃ found : List (Site × Diagnostic),
      (found.map Prod.fst).Perm
        (module.sites.filter (Site.isAtFault { settings with strictTree := true })) ∧
      (∀ pair ∈ found, pair.1.Tells { settings with strictTree := true } pair.2) ∧
      checkModule { settings with strictTree := true } Check.registered module =
        found.map Prod.snd ∧
      checkModule { settings with strictTree := false } Check.registered module =
        (found.filter fun pair => pair.1.markers.any Marker.isRecognized).map Prod.snd ∧
      ∀ pair ∈ found, pair.1.markers.any Marker.isRecognized = false →
        ∃ tree, TagTree.parse? pair.2.tree = some tree ∧
          pair.2.missing = String.intercalate "," tree.tags := by
  have isReport : ∀ settings : Settings, (findingsOf settings id module.sites).map Prod.snd =
      checkModule settings Check.registered module := fun settings =>
    map_snd_findingsOf settings id module.sites (List.map_id _)
  have tells : ∀ pair ∈ findingsOf settings.strict id module.sites,
      pair.1.Tells settings.strict pair.2 := fun pair member =>
    Site.tells_of_finding? (finding?_of_mem_findingsOf member).2
  refine ⟨findingsOf settings.strict id module.sites,
    map_fst_findingsOf settings.strict id module.sites, tells, (isReport settings.strict).symm, ?_,
    ?_⟩
  · show checkModule settings.notStrict Check.registered module = _
    rw [← isReport, findingsOf_notStrict]
    rfl
  · intro pair member unmarked
    exact (tells pair member).missing_all unmarked

end TagAudit
