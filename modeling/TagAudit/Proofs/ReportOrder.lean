/-
**Reports are in strict order.**

If all definitions of a source start at positions of their own, no position is reported twice, and
the report of the source is in strict order. The results of a run are in the order of their files,
which all differ, so that the entries of its report are in strict order of file, line and column.

* `auditFile_strictly_ordered`: the diagnostics of one file;
* `entries_strictly_ordered`: the entries of all files, one file after the other;
* `entries_contiguous`: the entries of one file stand together;
* `report_strictly_ordered`: the order of the report of a source and of the report of a run.
-/

import TagAudit.Proofs.DefinitionNodes
import TagAudit.Proofs.PathOrder
import TagAudit.Proofs.RunEffects

namespace TagAudit

/-- All definitions of a source start at positions of their own. -/
def Node.DistinctStarts (root : Node) : Prop := (root.definitions.map Node.location).Nodup

instance (root : Node) : Decidable root.DistinctStarts :=
  inferInstanceAs (Decidable (List.Nodup _))

/-- The file, the line and the column of an entry, the file deciding first and the line next. -/
def Entry.key (entry : Entry) : List (Nat ×ₗ String) ×ₗ Nat ×ₗ Nat :=
  toLex (Path.key entry.file, toLex (entry.line, entry.column))

/-- The entries of a result. -/
def FileResult.entries (result : FileResult) : List Entry :=
  result.diagnostics.map (Entry.ofDiagnostic result.path)

theorem Summary.entries_ofResults (results : List FileResult) :
    (Summary.ofResults results).entries = results.flatMap FileResult.entries :=
  rfl

/-! ### One file -/

/-- The report of a source whose definitions start at positions of their own is in strict order. -/
theorem Node.DistinctStarts.strictly_ordered {root : Node} (distinct : root.DistinctStarts)
    (settings : Settings) :
    (checkModule settings Check.registered root.outline).Pairwise fun first second =>
      first.location.key < second.location.key :=
  checkModule_strictly_ordered settings (Node.nodup_location_sites distinct)

/-- The diagnostics of a file are in strict order. -/
theorem auditFile_strictly_ordered (settings : Settings) {tree : FileTree} {path : String}
    (distinct : ∀ source, tree.read path = .ok source → (rootNode source).DistinctStarts) :
    (auditFile settings tree path).diagnostics.Pairwise fun first second =>
      first.location.key < second.location.key := by
  unfold auditFile
  split
  next source read => exact (distinct source read).strictly_ordered settings
  next => exact List.Pairwise.nil

/-- The entries of a file with diagnostics in strict order are in strict order. -/
theorem FileResult.entries_strictly_ordered {result : FileResult}
    (inOrder : result.diagnostics.Pairwise fun first second =>
      first.location.key < second.location.key) :
    result.entries.Pairwise fun first second => first.key < second.key := by
  refine List.pairwise_map.mpr (inOrder.imp fun before => ?_)
  exact Prod.Lex.toLex_lt_toLex.mpr (.inr ⟨rfl, before⟩)

theorem FileResult.file_of_mem_entries {result : FileResult} {entry : Entry}
    (member : entry ∈ result.entries) : entry.file = result.path := by
  obtain ⟨diagnostic, _, rfl⟩ := List.mem_map.mp member
  rfl

/-! ### All files of a run -/

section Results

variable {results : List FileResult}
  (filesInOrder : results.Pairwise fun first second => Path.key first.path < Path.key second.path)

include filesInOrder

/-- Results in strict order of their files, each in strict order, give entries in strict order. -/
theorem entries_strictly_ordered
    (each : ∀ result ∈ results, result.diagnostics.Pairwise fun first second =>
      first.location.key < second.location.key) :
    (Summary.ofResults results).entries.Pairwise fun first second => first.key < second.key := by
  rw [Summary.entries_ofResults, List.pairwise_flatMap]
  refine ⟨fun result member => FileResult.entries_strictly_ordered (each result member), ?_⟩
  refine filesInOrder.imp fun {first second} before entry isEntry other isOther => ?_
  refine Prod.Lex.toLex_lt_toLex.mpr (.inl ?_)
  rw [FileResult.file_of_mem_entries isEntry, FileResult.file_of_mem_entries isOther]
  exact before

/-- **The entries of one file stand together.** -/
theorem entries_contiguous (file : String) :
    ((Summary.ofResults results).entries.filter (·.file = file)).IsInfix
      (Summary.ofResults results).entries := by
  simp only [Summary.entries_ofResults]
  induction results with
  | nil => exact List.infix_refl _
  | cons result rest step =>
    obtain ⟨before, restInOrder⟩ := List.pairwise_cons.mp filesInOrder
    rw [List.flatMap_cons, List.filter_append]
    by_cases isFile : result.path = file
    · -- No other result is about this file, for its path would have to come after itself.
      have noOther : (rest.flatMap FileResult.entries).filter (·.file = file) = [] := by
        refine List.filter_eq_nil_iff.mpr fun entry member => ?_
        obtain ⟨other, isOther, isEntry⟩ := List.mem_flatMap.mp member
        rw [decide_eq_true_eq, FileResult.file_of_mem_entries isEntry, ← isFile]
        intro same
        have later := before other isOther
        rw [same] at later
        exact lt_irrefl _ later
      have all : result.entries.filter (·.file = file) = result.entries := by
        refine List.filter_eq_self.mpr fun entry isEntry => ?_
        rw [decide_eq_true_eq, FileResult.file_of_mem_entries isEntry, isFile]
      rw [noOther, all, List.append_nil]
      exact (List.prefix_append _ _).isInfix
    · have none : result.entries.filter (·.file = file) = [] := by
        refine List.filter_eq_nil_iff.mpr fun entry isEntry => ?_
        rw [decide_eq_true_eq, FileResult.file_of_mem_entries isEntry]
        exact isFile
      rw [none, List.nil_append]
      exact (step restInOrder).trans (List.suffix_append _ _).isInfix

end Results

/-- The results for source files in strict order are in strict order of their files. -/
theorem results_strictly_ordered (settings : Settings) (tree : FileTree) {files : List String}
    (inOrder : files.Pairwise fun first second => Path.key first < Path.key second) :
    (files.map (auditFile settings tree)).Pairwise fun first second =>
      Path.key first.path < Path.key second.path := by
  refine List.pairwise_map.mpr ?_
  simp only [path_auditFile]
  exact inOrder

/-- **Reports are in strict order.** Where the definitions of a source start at positions of their
own, its report is in strict order of the positions, and each diagnostic tells of a definition of its
own. Where all sources of a run are like that, the entries of its report are in strict order of
file, line and column, and the entries of one file stand together. -/
theorem report_strictly_ordered :
    (∀ (settings : Settings) (root : Node), root.DistinctStarts →
      (checkModule settings Check.registered root.outline).Pairwise (fun first second =>
        first.location.key < second.location.key) ∧
      ∃ found : List (Node × Diagnostic),
        found.map Prod.snd = checkModule settings Check.registered root.outline ∧
        (found.map Prod.fst).Subperm root.definitions ∧
        ∀ pair ∈ found, pair.2.location = pair.1.location ∧
          some pair.2.name = pair.1.definedName?) ∧
    ∀ (arguments : Arguments) (tree : FileTree) (results : List FileResult),
      arguments.Finds tree results →
      (∀ result ∈ results, ∀ source, tree.read result.path = .ok source →
        (rootNode source).DistinctStarts) →
      (Summary.ofResults results).entries.Pairwise (fun first second => first.key < second.key) ∧
      ∀ file, ((Summary.ofResults results).entries.filter (·.file = file)).IsInfix
        (Summary.ofResults results).entries := by
  refine ⟨fun settings root distinct => ?_, fun arguments tree results finds distinct => ?_⟩
  · exact ⟨distinct.strictly_ordered settings, root.exists_findings settings⟩
  · obtain ⟨settings, files, collected, rfl⟩ := finds.exists_files
    have filesInOrder := results_strictly_ordered settings tree
      (FileTree.collect_strictly_ordered collected)
    refine ⟨entries_strictly_ordered filesInOrder fun result member => ?_,
      entries_contiguous filesInOrder⟩
    obtain ⟨file, _, rfl⟩ := List.mem_map.mp member
    refine auditFile_strictly_ordered settings fun source read => ?_
    refine distinct _ member source ?_
    rw [path_auditFile]
    exact read

/-- A named node of a small source. -/
def sampleNode (kind : NodeKind) (role : Option Role) (location : Location)
    (text : Option String) (children : List Node) : Node :=
  .mk ⟨kind, role, true, false, false, false, location, text⟩ children

/-- A decorated class with a method and a nested class in its body. -/
def sampleRoot : Node :=
  sampleNode (.other "module") none ⟨1, 1⟩ none
    [sampleNode .decoratedDefinition none ⟨1, 1⟩ none
      [sampleNode .decorator none ⟨1, 1⟩ none [],
       sampleNode .classDefinition (some .definition) ⟨2, 1⟩ none
        [sampleNode .identifier (some .name) ⟨2, 7⟩ (some "TestCart") [],
         sampleNode (.other "block") (some .body) ⟨3, 5⟩ none
          [sampleNode .functionDefinition none ⟨3, 5⟩ none
            [sampleNode .identifier (some .name) ⟨3, 9⟩ (some "test_add") []],
           sampleNode .classDefinition none ⟨6, 5⟩ none
            [sampleNode .identifier (some .name) ⟨6, 11⟩ (some "test_nested") []]]]]]

/-- What a strict audit finds in the source, under a path. -/
def sampleResult (path : String) : FileResult :=
  ⟨path, checkModule { Settings.standard with strictTree := true } Check.registered
    sampleRoot.outline, []⟩

theorem length_sampleResult (path : String) : (sampleResult path).diagnostics.length = 3 := by
  refine (checkModule_perm _ _ _).length_eq.trans ?_
  decide +kernel

theorem report_strictly_ordered_sample :
    sampleRoot.DistinctStarts ∧
      (checkModule { Settings.standard with strictTree := true } Check.registered
        sampleRoot.outline).length = 3 ∧
      (checkModule { Settings.standard with strictTree := true } Check.registered
        sampleRoot.outline).Pairwise (fun first second =>
          first.location.key < second.location.key) ∧
      deviceArguments.Finds deviceTree [] ∧
      (Summary.ofResults []).entries.Pairwise (fun first second => first.key < second.key) ∧
      (Summary.ofResults [sampleResult "cart.py", sampleResult "shop.py"]).entries.length = 6 ∧
      (Summary.ofResults [sampleResult "cart.py", sampleResult "shop.py"]).entries.Pairwise
        (fun first second => first.key < second.key) ∧
      ∀ file, ((Summary.ofResults [sampleResult "cart.py", sampleResult "shop.py"]).entries.filter
        (·.file = file)).IsInfix
          (Summary.ofResults [sampleResult "cart.py", sampleResult "shop.py"]).entries := by
  have distinct : sampleRoot.DistinctStarts := by decide
  have inOrder := (report_strictly_ordered.1 { Settings.standard with strictTree := true } _
    distinct).1
  have filesInOrder : [sampleResult "cart.py", sampleResult "shop.py"].Pairwise
      fun first second => Path.key first.path < Path.key second.path := by
    refine List.pairwise_pair.mpr ?_
    decide +kernel
  refine ⟨distinct, length_sampleResult "", inOrder, finds_device, ?_, ?_, ?_, ?_⟩
  · exact (report_strictly_ordered.2 _ _ _ finds_device fun _ member => by cases member).1
  · simp [Summary.entries_ofResults, FileResult.entries, length_sampleResult]
  · refine entries_strictly_ordered filesInOrder ?_
    simp only [List.forall_mem_cons]
    exact ⟨inOrder, inOrder, List.forall_mem_nil _⟩
  · exact entries_contiguous filesInOrder

end TagAudit
