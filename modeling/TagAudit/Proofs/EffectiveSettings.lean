/-
**The settings that take effect.**

Layers are laid one on top of the other. For each key on its own the last layer that sets it
decides, also if it sets a tree to the empty text, which asks for no tree: it does not fall through
to a lower layer. A run lays the command line on top of the settings file.

* `Layer.onTopOf_assoc`, `Layer.onTopOf_empty`, `Layer.empty_onTopOf`: layers with the empty one are
  a monoid;
* `Layer.key_stack`: a key of some layers has the value of the last layer that sets it;
* `Layer.decidedBy_stack`: so have the settings, with the standard ones for keys that no layer sets;
* `run_eq_outcomeUnder`: a run audits under the settings of the file with the command line on top;
* `settings_take_effect`: all of this, and what it means for each key of a run.
-/

import Mathlib.Data.List.Induction
import TagAudit.Proofs.ProperTrees
import TagAudit.Proofs.RunEffects

namespace TagAudit

/-- The tree that a text asks for; the empty text asks for none. -/
def treeAskedFor (text : String) : Option String := if text = "" then none else some text

namespace Layer

/-- What the last layer that sets a key sets it to. -/
def lastSet {α : Type} (key : Layer → Option α) (layers : List Layer) : Option α :=
  (layers.filterMap key).getLast?

/-! ### Layers on top of each other -/

theorem onTopOf_assoc (upper middle lower : Layer) :
    (upper.onTopOf middle).onTopOf lower = upper.onTopOf (middle.onTopOf lower) := by
  simp only [onTopOf, Option.or_assoc]

theorem onTopOf_empty (layer : Layer) : layer.onTopOf empty = layer := by
  simp only [onTopOf, empty, Option.or_none]

theorem empty_onTopOf (layer : Layer) : empty.onTopOf layer = layer := by
  simp only [onTopOf, empty, Option.none_or]

/-- One more layer comes to lie on top of all others. -/
theorem stack_append_singleton (layers : List Layer) (upper : Layer) :
    stack (layers ++ [upper]) = upper.onTopOf (stack layers) := by
  unfold stack
  rw [List.foldl_append, List.foldl_cons, List.foldl_nil]

/-- One more layer decides over the others if it sets the key. -/
theorem lastSet_append_singleton {α : Type} (key : Layer → Option α) (layers : List Layer)
    (upper : Layer) : lastSet key (layers ++ [upper]) = (key upper).or (lastSet key layers) := by
  unfold lastSet
  rw [List.filterMap_append]
  cases isSet : key upper with
  | none => simp [isSet]
  | some value => simp [isSet]

/-- **The last layer that sets a key decides over it**, whichever key that is. -/
theorem key_stack {α : Type} (key : Layer → Option α) (isOpen : key empty = none)
    (decides : ∀ upper lower : Layer, key (upper.onTopOf lower) = (key upper).or (key lower))
    (layers : List Layer) : key (stack layers) = lastSet key layers := by
  induction layers using List.reverseRecOn with
  | nil => exact isOpen
  | append_singleton layers upper step =>
    rw [stack_append_singleton, decides, step, lastSet_append_singleton]

end Layer

/-- The settings that some layers decide: for each key the last layer that sets it, and the standard
value if there is none. -/
structure Settings.DecidedBy (settings : Settings) (layers : List Layer) : Prop where
  classTagTree : settings.classTagTree =
    ((Layer.lastSet Layer.classTagTree layers).map treeAskedFor).getD
      (some "feature>story>label>tag")
  methodTagTree : settings.methodTagTree =
    ((Layer.lastSet Layer.methodTagTree layers).map treeAskedFor).getD (some "title>tag")
  testClassName : settings.testClassName =
    (Layer.lastSet Layer.testClassName layers).getD "Test*"
  testMethodName : settings.testMethodName =
    (Layer.lastSet Layer.testMethodName layers).getD "test_*"
  strictTree : settings.strictTree = (Layer.lastSet Layer.strictTree layers).getD false

theorem Layer.treeOr_eq (value standard : Option String) :
    treeOr value standard = (value.map treeAskedFor).getD standard := by
  cases value with
  | none => rfl
  | some text => simp [treeOr, treeAskedFor]

/-- **The settings of some layers are those that the layers decide.** -/
theorem Layer.decidedBy_stack (layers : List Layer) :
    (stack layers).settings.DecidedBy layers where
  classTagTree := by
    rw [← key_stack classTagTree rfl fun _ _ => rfl]
    exact treeOr_eq _ _
  methodTagTree := by
    rw [← key_stack methodTagTree rfl fun _ _ => rfl]
    exact treeOr_eq _ _
  testClassName := by
    rw [← key_stack testClassName rfl fun _ _ => rfl]
    rfl
  testMethodName := by
    rw [← key_stack testMethodName rfl fun _ _ => rfl]
    rfl
  strictTree := by
    rw [← key_stack strictTree rfl fun _ _ => rfl]
    rfl

/-! ### The settings of a run -/

/-- What the command line gives, else what the settings file sets, and else the standard value. -/
def firstGiven {α : Type} (given set : Option α) (standard : α) : α :=
  match given, set with
  | some value, _ => value
  | none, some value => value
  | none, none => standard

/-- The settings of a run: each key is taken from the command line if it is given there, else from
the settings file if it is set there, and else it has its standard value. -/
structure Settings.TakenFrom (settings : Settings) (arguments : Arguments) (file : Layer) :
    Prop where
  classTagTree : settings.classTagTree =
    firstGiven (arguments.classTagTree.map treeAskedFor) (file.classTagTree.map treeAskedFor)
      (some "feature>story>label>tag")
  methodTagTree : settings.methodTagTree =
    firstGiven (arguments.methodTagTree.map treeAskedFor) (file.methodTagTree.map treeAskedFor)
      (some "title>tag")
  testClassName : settings.testClassName =
    firstGiven arguments.testClassName file.testClassName "Test*"
  testMethodName : settings.testMethodName =
    firstGiven arguments.testMethodName file.testMethodName "test_*"
  strictTree : settings.strictTree = true ↔
    arguments.strictTree = true ∨ file.strictTree = some true

theorem getD_or {α : Type} (given set : Option α) (standard : α) :
    (given.or set).getD standard = firstGiven given set standard := by
  cases given <;> cases set <;> rfl

/-- The command line on top of the file gives the settings of a run. -/
theorem Arguments.takenFrom_settings (arguments : Arguments) (file : Layer) :
    (arguments.layer.onTopOf file).settings.TakenFrom arguments file where
  classTagTree := by
    rw [← getD_or, ← Option.map_or]
    exact Layer.treeOr_eq _ _
  methodTagTree := by
    rw [← getD_or, ← Option.map_or]
    exact Layer.treeOr_eq _ _
  testClassName := getD_or _ _ _
  testMethodName := getD_or _ _ _
  strictTree := by
    -- The command line can set the key to true, but not to false.
    show ((if arguments.strictTree then some true else none).or file.strictTree).getD false = true ↔
      _
    cases arguments.strictTree <;> rcases file.strictTree with _ | _ | _ <;> decide

/-- What becomes of a run that audits its sources under the given settings. -/
def Arguments.outcomeUnder (arguments : Arguments) (tree : FileTree) (settings : Settings) :
    Outcome :=
  match auditPaths settings tree arguments.paths with
  | .error fault => .failed tree (RunFault.sources fault).message
  | .ok results =>
    match deliver tree arguments (statusOf results) (arguments.format.report results) with
    | .error fault => .failed tree fault.message
    | .ok outcome => outcome

/-- A run with a valid command line and a readable settings file audits its sources under the file
with the command line on top. -/
theorem run_eq_outcomeUnder {tree : FileTree} {words : List String} {arguments : Arguments}
    {file : Layer} (understood : Arguments.parse words = .ok arguments)
    (valid : arguments.validate tree = .ok ()) (loaded : fileLayer tree arguments = .ok file) :
    run tree words = arguments.outcomeUnder tree (arguments.layer.onTopOf file).settings := by
  have steps : runArguments tree arguments =
      ((auditPaths (arguments.layer.onTopOf file).settings tree arguments.paths).mapError
        RunFault.sources >>= fun results =>
          deliver tree arguments (statusOf results) (arguments.format.report results)) := by
    rw [runArguments, valid, loaded]
    rfl
  unfold Arguments.outcomeUnder
  cases audited : auditPaths (arguments.layer.onTopOf file).settings tree arguments.paths with
  | error fault =>
    have failed : runArguments tree arguments = .error (.sources fault) := by
      rw [steps, audited]
      rfl
    simp only [run, understood, failed]
  | ok results =>
    have delivers : runArguments tree arguments =
        deliver tree arguments (statusOf results) (arguments.format.report results) := by
      rw [steps, audited]
      rfl
    simp only [run, understood, delivers]
    cases deliver tree arguments (statusOf results) (arguments.format.report results) <;> rfl

/-- **The settings that take effect.** Of any number of layers the last one that sets a key decides
over it; layers are put on top of each other associatively, and the empty layer changes nothing. A
run audits under settings of which each key comes from the command line, or else from the settings
file, or else is standard, and is strict if the command line or the file says so. -/
theorem settings_take_effect :
    (∀ layers : List Layer, (Layer.stack layers).settings.DecidedBy layers) ∧
    (∀ upper middle lower : Layer,
      (upper.onTopOf middle).onTopOf lower = upper.onTopOf (middle.onTopOf lower)) ∧
    (∀ layer : Layer, layer.onTopOf Layer.empty = layer ∧ Layer.empty.onTopOf layer = layer) ∧
    ∀ (tree : FileTree) (words : List String) (arguments : Arguments) (file : Layer),
      Arguments.parse words = .ok arguments → arguments.validate tree = .ok () →
      fileLayer tree arguments = .ok file →
      ∃ settings : Settings, settings.TakenFrom arguments file ∧
        run tree words = arguments.outcomeUnder tree settings := by
  refine ⟨Layer.decidedBy_stack, Layer.onTopOf_assoc, fun layer => ?_, ?_⟩
  · exact ⟨layer.onTopOf_empty, layer.empty_onTopOf⟩
  · intro tree words arguments file understood valid loaded
    exact ⟨_, arguments.takenFrom_settings file, run_eq_outcomeUnder understood valid loaded⟩

/-! ### A settings file in JSON -/

theorem fromUTF8?_toUTF8 (text : String) : String.fromUTF8? text.toUTF8 = some text :=
  dif_pos text.isValidUTF8

/-- What becomes of a settings file in JSON. -/
theorem loadSettings_json {tree : FileTree} {path text : String}
    (isJson : Path.extension? path = some "json") (saved : tree.read path = .ok text.toUTF8) :
    loadSettings tree path = jsonLayer path text.toList := by
  have isText : settingsText tree path = .ok text := by
    rw [settingsText, saved]
    simp only [fromUTF8?_toUTF8]
  rw [loadSettings, isText, isJson]
  rfl

/-- The text of a settings file that turns the check of classes off. -/
def suiteRules : String :=
  "\x7b\"class-tag-tree\": \"\", \"test-class-name\": \"*Suite\", \"strict-tree\": true\x7d"

/-- A working directory with that settings file and one source. -/
def suiteTree : FileTree :=
  ⟨[(["work"], .directory), (["work", "rules.json"], .file suiteRules.toUTF8),
    (["work", "test_cart.py"], .file "class TestCart:\n    pass\n".toUTF8)], ["work"]⟩

/-- A command line that gives a key which the settings file sets too. -/
def suiteWords : List String :=
  ["--config", "rules.json", "--test-class-name=Test*", "test_cart.py"]

/-- What that command line asks for. -/
def suiteArguments : Arguments :=
  { paths := ["test_cart.py"], settingsFile := some "rules.json", testClassName := some "Test*" }

/-- What the settings file sets. -/
def suiteLayer : Layer :=
  { classTagTree := some "", testClassName := some "*Suite", strictTree := some true }

theorem lookup_rules : suiteTree.lookup "rules.json" = .ok (.file suiteRules.toUTF8) :=
  FileTree.lookup_name (by decide) rfl (by decide) rfl rfl (by simp)

theorem validate_suite : suiteArguments.validate suiteTree = .ok () := by
  have isFound : suiteTree.lookup "test_cart.py" =
      .ok (.file "class TestCart:\n    pass\n".toUTF8) :=
    FileTree.lookup_name (by decide) rfl (by decide) rfl rfl (by simp)
  have isPath : validatePath suiteTree "test_cart.py" = .ok () := by rw [validatePath, isFound]
  have isFile : suiteTree.isFile "rules.json" = true := by
    rw [FileTree.isFile, lookup_rules]
  refine bind_eq_ok_iff.mpr ⟨(), bind_eq_ok_iff.mpr ⟨(), isPath, rfl⟩, ?_⟩
  show (if suiteTree.isFile "rules.json" = true then Except.ok () else _) = _
  rw [if_pos isFile]

theorem fileLayer_suite : fileLayer suiteTree suiteArguments = .ok suiteLayer := by
  have isRead : suiteTree.read "rules.json" = .ok suiteRules.toUTF8 :=
    FileTree.read_name (by decide) rfl (by decide) rfl rfl
  have isJson : Path.extension? "rules.json" = some "json" := by decide +kernel
  have isLayer : JsonFile.read suiteRules.toList = .ok suiteLayer := rfl
  show loadSettings suiteTree "rules.json" = _
  rw [loadSettings_json isJson isRead, jsonLayer, isLayer]

theorem settings_take_effect_suite :
    Arguments.parse suiteWords = .ok suiteArguments ∧
      suiteArguments.validate suiteTree = .ok () ∧
      fileLayer suiteTree suiteArguments = .ok suiteLayer ∧
      run suiteTree suiteWords =
        suiteArguments.outcomeUnder suiteTree ⟨none, some "title>tag", "Test*", "test_*", true⟩ := by
  have understood : Arguments.parse suiteWords = .ok suiteArguments := rfl
  obtain ⟨-, -, -, ofRun⟩ := settings_take_effect
  obtain ⟨settings, taken, isRun⟩ := ofRun _ _ _ _ understood validate_suite fileLayer_suite
  have isSettings : settings = ⟨none, some "title>tag", "Test*", "test_*", true⟩ := by
    obtain ⟨classTagTree, methodTagTree, testClassName, testMethodName, strictTree⟩ := settings
    have isStrict := taken.strictTree.mpr (.inr rfl)
    rw [Settings.mk.injEq]
    exact ⟨taken.classTagTree, taken.methodTagTree, taken.testClassName, taken.testMethodName,
      isStrict⟩
  rw [isSettings] at isRun
  exact ⟨understood, validate_suite, fileLayer_suite, isRun⟩

end TagAudit
