/-
**Settings files that hold an object.**

A settings file in JSON with the keys of some settings is loaded as exactly these settings, in
whatever order the keys come and however the texts are written. Every other object is refused.

* `JsonFile.readValue_eq_ok_iff`: what is read for a key is a value of its kind, or leaves it open;
* `Layer.statedOver_cons_iff`: the first of some fields gives its key a value, and the others state
  a layer on top of that;
* `JsonFile.readFields_eq_ok_iff`: the fields of an object are read if and only if they state a
  layer;
* `Layer.exists_statedBy_iff`: they do if and only if none of them is at fault;
* `settings_object_loaded`: what becomes of a settings file that holds an object.
-/

import TagAudit.Proofs.EffectiveSettings
import TagAudit.Proofs.JsonObjects

namespace TagAudit

/-! ### The values of a layer -/

theorem SettingsKey.name_injective : Function.Injective SettingsKey.name := by
  intro key other
  cases key <;> cases other <;> decide

/-- A key is found by its name, and by no other one. -/
theorem SettingsKey.ofName?_eq_some_iff {name : String} {key : SettingsKey} :
    ofName? name = some key ↔ name = key.name := by
  constructor
  · intro found
    have isName := List.find?_some found
    exact (of_decide_eq_true isName).symm
  · rintro rfl
    cases key <;> decide

namespace SettingsValue

/-- The value in JSON; `null` leaves the key open. -/
def toJson : SettingsValue → Json
  | .text none => .null
  | .text (some value) => .string value
  | .flag none => .null
  | .flag (some value) => .bool value

/-- Whether the value is of the kind that the key takes. -/
def IsFor (value : SettingsValue) (key : SettingsKey) : Prop :=
  match value with
  | .text _ => key.takesFlag = false
  | .flag _ => key.takesFlag = true

end SettingsValue

namespace Layer

/-- The value of a key in a layer. -/
def value (layer : Layer) : SettingsKey → SettingsValue
  | .classTagTree => .text layer.classTagTree
  | .methodTagTree => .text layer.methodTagTree
  | .testClassName => .text layer.testClassName
  | .testMethodName => .text layer.testMethodName
  | .strictTree => .flag layer.strictTree

theorem value_isFor (layer : Layer) (key : SettingsKey) : (layer.value key).IsFor key := by
  cases key <;> rfl

/-- A layer is told by the values of its keys. -/
theorem value_injective : Function.Injective value := by
  intro layer other same
  obtain ⟨classTagTree, methodTagTree, testClassName, testMethodName, strictTree⟩ := layer
  have ofClass := congrFun same .classTagTree
  have ofMethod := congrFun same .methodTagTree
  have className := congrFun same .testClassName
  have methodName := congrFun same .testMethodName
  have strict := congrFun same .strictTree
  simp only [value, SettingsValue.text.injEq, SettingsValue.flag.injEq]
    at ofClass ofMethod className methodName strict
  rw [ofClass, ofMethod, className, methodName, strict]

/-- Setting a key gives it the value, and no other key changes. -/
theorem value_set {layer : Layer} {key : SettingsKey} {value : SettingsValue}
    (isFor : value.IsFor key) (other : SettingsKey) :
    (layer.set key value).value other = if other = key then value else layer.value other := by
  cases value with
  | text text =>
    cases key with
    | strictTree => cases isFor
    | classTagTree | methodTagTree | testClassName | testMethodName => cases other <;> rfl
  | flag flag =>
    cases key with
    | strictTree => cases other <;> rfl
    | classTagTree | methodTagTree | testClassName | testMethodName => cases isFor

end Layer

/-! ### Reading a value -/

namespace JsonFile

variable {key : SettingsKey} {value : SettingsValue} {form text rest after : List Char}

/-- A value of the wrong kind is refused, whatever it is. -/
theorem wrongType_ne_ok {α : Type} {expected : String} {result : α} :
    wrongType expected text ≠ .ok result := by
  intro read
  unfold wrongType at read
  split at read
  -- Lists, objects and the end of the text are refused at once, other values when they are read.
  case h_6 | h_7 | h_9 => cases read
  case h_8 =>
    split at read
    · obtain ⟨_, -, refused⟩ := bind_eq_ok_iff.mp read
      cases refused
    · cases read
  all_goals
    obtain ⟨_, -, refused⟩ := bind_eq_ok_iff.mp read
    cases refused

/-- Every form of a value that is for the key is read. -/
theorem readValue_of_mem_forms (isFor : value.IsFor key) (isForm : form ∈ value.toJson.forms)
    (next : skipBlanks text = form ++ rest) : readValue key text = .ok (value, rest) := by
  unfold readValue
  match value with
  | .text none =>
    obtain rfl : form = "null".toList := isForm
    have isText : key.takesFlag = false := isFor
    simp [next, readWord, isText]
  | .flag none =>
    obtain rfl : form = "null".toList := isForm
    have isFlag : key.takesFlag = true := isFor
    simp [next, readWord, isFlag]
  | .text (some value) =>
    have isText : key.takesFlag = false := isFor
    have follows : Follows (JsonForm.string value) (form ++ rest) rest := ⟨form, isForm, rfl⟩
    obtain ⟨inside, isQuote, isRead⟩ := JsonForm.readText_of_follows follows
    simp [next, isQuote, isText, isRead]
  | .flag (some true) =>
    obtain rfl : form = "true".toList := isForm
    have isFlag : key.takesFlag = true := isFor
    simp [next, readWord, isFlag]
  | .flag (some false) =>
    obtain rfl : form = "false".toList := isForm
    have isFlag : key.takesFlag = true := isFor
    simp [next, readWord, isFlag]

/-- What starts neither as `null` nor as a value of the kind of the key is refused. -/
theorem readValue_ne_ok {c : Char} {result : SettingsValue × List Char}
    (next : skipBlanks text = c :: rest) (notNull : c ≠ 'n')
    (wrong : if key.takesFlag = true then c ≠ 't' ∧ c ≠ 'f' else c ≠ '"') :
    readValue key text ≠ .ok result := by
  have refused : readValue key text = wrongType key.expected (c :: rest) := by
    unfold readValue
    rw [next]
    dsimp only
    split
    next same => exact absurd (List.cons.inj same).1 notNull
    next same => cases same
    next same =>
      obtain ⟨rfl, rfl⟩ := List.cons.inj same
      split
      next isFlag =>
        rw [if_pos isFlag] at wrong
        rw [if_neg wrong.1, if_neg wrong.2]
      next isText =>
        rw [if_neg isText] at wrong
        rw [if_neg wrong]
  rw [refused]
  exact wrongType_ne_ok

/-- What is read for a key is a value for it. -/
theorem mem_forms_of_readValue (isValue : JsonForm.IsValue form)
    (next : skipBlanks text = form ++ rest) (read : readValue key text = .ok (value, after)) :
    after = rest ∧ value.IsFor key ∧ form ∈ value.toJson.forms := by
  -- If the text is a form of another value for the key, that one has been read.
  have ofForm (other : SettingsValue) (isFor : other.IsFor key)
      (isForm : form ∈ other.toJson.forms) :
      after = rest ∧ value.IsFor key ∧ form ∈ value.toJson.forms := by
    obtain ⟨rfl, rfl⟩ := Prod.mk.inj (Except.ok.inj
      (read.symm.trans (readValue_of_mem_forms isFor isForm next)))
    exact ⟨rfl, isFor, isForm⟩
  rcases isValue.shape with rfl | rfl | rfl | ⟨inside, isString⟩ | ⟨c, others, rfl, starts⟩
  · refine ofForm _ (Layer.empty.value_isFor key) ?_
    cases key <;> exact Set.mem_singleton _
  · by_cases isFlag : key.takesFlag = true
    · exact ofForm (.flag (some true)) isFlag (Set.mem_singleton _)
    · exact absurd read (readValue_ne_ok next (by decide) (by rw [if_neg isFlag]; decide))
  · by_cases isFlag : key.takesFlag = true
    · exact ofForm (.flag (some false)) isFlag (Set.mem_singleton _)
    · exact absurd read (readValue_ne_ok next (by decide) (by rw [if_neg isFlag]; decide))
  · by_cases isFlag : key.takesFlag = true
    · obtain ⟨quoted, -, rfl, -⟩ := Follows.of_token_mul (Follows.nil_iff.mpr isString)
      exact absurd read (readValue_ne_ok next (by decide) (by simp [isFlag]))
    · exact ofForm (.text (some inside)) (Bool.eq_false_of_not_eq_true isFlag) isString
  · have starters : c ≠ 'n' ∧ c ≠ 't' ∧ c ≠ 'f' ∧ c ≠ '"' := by
      refine ⟨?_, ?_, ?_, ?_⟩ <;> rintro rfl <;> revert starts <;> decide
    exact absurd read (readValue_ne_ok next starters.1 (by split <;> simp [starters]))

/-- **A value is read for a key if and only if it is one for it.** -/
theorem readValue_eq_ok_iff (isValue : JsonForm.IsValue form)
    (next : skipBlanks text = form ++ rest) :
    readValue key text = .ok (value, after) ↔
      after = rest ∧ value.IsFor key ∧ form ∈ value.toJson.forms := by
  refine ⟨mem_forms_of_readValue isValue next, ?_⟩
  rintro ⟨rfl, isFor, isForm⟩
  exact readValue_of_mem_forms isFor isForm next

end JsonFile

/-! ### What fields state -/

/-- The form of a value that a key takes: `null`, or one of the kind of the key. -/
def SettingsKey.Takes (key : SettingsKey) (form : List Char) : Prop :=
  form = "null".toList ∨
    if key.takesFlag = true then form = "true".toList ∨ form = "false".toList
    else ∃ value, form ∈ JsonForm.string value

theorem SettingsKey.takes_iff {key : SettingsKey} {form : List Char} :
    key.Takes form ↔ ∃ value : SettingsValue, value.IsFor key ∧ form ∈ value.toJson.forms := by
  constructor
  · rintro (rfl | takes)
    · refine ⟨Layer.empty.value key, Layer.empty.value_isFor key, ?_⟩
      cases key <;> exact Set.mem_singleton _
    · split at takes
      next isFlag =>
        rcases takes with rfl | rfl
        · exact ⟨.flag (some true), isFlag, Set.mem_singleton _⟩
        · exact ⟨.flag (some false), isFlag, Set.mem_singleton _⟩
      next isText =>
        obtain ⟨value, isForm⟩ := takes
        exact ⟨.text (some value), Bool.eq_false_of_not_eq_true isText, isForm⟩
  · rintro ⟨value, isFor, isForm⟩
    match value with
    | .text none => exact .inl isForm
    | .flag none => exact .inl isForm
    | .text (some value) =>
      have isText : ¬ key.takesFlag = true := Bool.not_eq_true _ ▸ isFor
      exact .inr (by rw [if_neg isText]; exact ⟨value, isForm⟩)
    | .flag (some true) =>
      have isFlag : key.takesFlag = true := isFor
      exact .inr (by rw [if_pos isFlag]; exact .inl isForm)
    | .flag (some false) =>
      have isFlag : key.takesFlag = true := isFor
      exact .inr (by rw [if_pos isFlag]; exact .inr isForm)

/-- The keys as they are named in a file, each with the value that the layer has for it. -/
def Layer.named (layer : Layer) : List (String × SettingsValue) :=
  [("class-tag-tree", .text layer.classTagTree), ("method-tag-tree", .text layer.methodTagTree),
    ("test-class-name", .text layer.testClassName),
    ("test-method-name", .text layer.testMethodName), ("strict-tree", .flag layer.strictTree)]

/-- The layer that the fields of an object state: each of them gives a key its value, no key comes
twice, and the keys that do not come are open. -/
structure Layer.StatedBy (layer : Layer) (fields : List (String × List Char)) : Prop where
  distinct : (fields.map Prod.fst).Nodup
  stated : ∀ entry ∈ fields, ∃ value, (entry.1, value) ∈ layer.named ∧
    entry.2 ∈ value.toJson.forms
  others : ∀ entry ∈ layer.named, entry.1 ∉ fields.map Prod.fst → entry.2.toJson = .null

/-- The keys that take a text. -/
def textKeys : List String :=
  ["class-tag-tree", "method-tag-tree", "test-class-name", "test-method-name"]

/-- A field is at fault: its key is not known, its key comes twice, or its value is neither of the
kind of its key nor `null`. -/
inductive FaultAmong (fields : List (String × List Char)) : Prop
  | unknownKey {name : String} {form : List Char} (isField : (name, form) ∈ fields)
      (noTextKey : name ∉ textKeys) (noFlagKey : name ≠ "strict-tree")
  | repeatedKey (repeated : ¬ (fields.map Prod.fst).Nodup)
  | noText {name : String} {form : List Char} (isField : (name, form) ∈ fields)
      (isTextKey : name ∈ textKeys) (notNull : form ≠ "null".toList)
      (notString : ∀ value, form ∉ JsonForm.string value)
  | noFlag {form : List Char} (isField : ("strict-tree", form) ∈ fields)
      (notNull : form ≠ "null".toList) (notTrue : form ≠ "true".toList)
      (notFalse : form ≠ "false".toList)

theorem mem_textKeys_iff {name : String} :
    name ∈ textKeys ↔ ∃ key : SettingsKey, name = key.name ∧ key.takesFlag = false := by
  constructor
  · intro isTextKey
    simp only [textKeys, List.mem_cons, List.not_mem_nil, or_false] at isTextKey
    rcases isTextKey with rfl | rfl | rfl | rfl
    · exact ⟨.classTagTree, rfl, rfl⟩
    · exact ⟨.methodTagTree, rfl, rfl⟩
    · exact ⟨.testClassName, rfl, rfl⟩
    · exact ⟨.testMethodName, rfl, rfl⟩
  · rintro ⟨key, rfl, isText⟩
    cases key with
    | strictTree => cases isText
    | classTagTree | methodTagTree | testClassName | testMethodName => decide

theorem SettingsKey.name_of_takesFlag {key : SettingsKey} (isFlag : key.takesFlag = true) :
    key.name = "strict-tree" := by
  cases key with
  | strictTree => rfl
  | classTagTree | methodTagTree | testClassName | testMethodName => cases isFlag

namespace Layer

/-- The layer that fields state on top of a base, if they are not for the keys seen before. -/
structure StatedOver (base : Layer) (seen : List SettingsKey) (fields : List (String × List Char))
    (layer : Layer) : Prop where
  distinct : (fields.map Prod.fst).Nodup
  fresh : ∀ key ∈ seen, key.name ∉ fields.map Prod.fst
  stated : ∀ entry ∈ fields, ∃ key : SettingsKey, entry.1 = key.name ∧
    entry.2 ∈ (layer.value key).toJson.forms
  others : ∀ key : SettingsKey, key.name ∉ fields.map Prod.fst → layer.value key = base.value key

variable {base layer : Layer} {seen : List SettingsKey} {fields : List (String × List Char)}

theorem mem_named_iff {name : String} {value : SettingsValue} :
    (name, value) ∈ layer.named ↔
      ∃ key : SettingsKey, name = key.name ∧ value = layer.value key := by
  constructor
  · intro isNamed
    simp only [named, List.mem_cons, List.not_mem_nil, or_false, Prod.mk.injEq] at isNamed
    rcases isNamed with ⟨rfl, rfl⟩ | ⟨rfl, rfl⟩ | ⟨rfl, rfl⟩ | ⟨rfl, rfl⟩ | ⟨rfl, rfl⟩
    · exact ⟨.classTagTree, rfl, rfl⟩
    · exact ⟨.methodTagTree, rfl, rfl⟩
    · exact ⟨.testClassName, rfl, rfl⟩
    · exact ⟨.testMethodName, rfl, rfl⟩
    · exact ⟨.strictTree, rfl, rfl⟩
  · rintro ⟨key, rfl, rfl⟩
    cases key <;> simp [named, SettingsKey.name, value]

/-- A key is open in a layer if and only if it has the value of the empty one. -/
theorem toJson_value_eq_null_iff {key : SettingsKey} :
    (layer.value key).toJson = .null ↔ layer.value key = empty.value key := by
  constructor
  · intro isNull
    have isFor := layer.value_isFor key
    match found : layer.value key with
    | .text none =>
      rw [found] at isFor
      cases key with
      | strictTree => cases isFor
      | classTagTree | methodTagTree | testClassName | testMethodName => rfl
    | .flag none =>
      rw [found] at isFor
      cases key with
      | strictTree => rfl
      | classTagTree | methodTagTree | testClassName | testMethodName => cases isFor
    | .text (some value) =>
      rw [found] at isNull
      cases isNull
    | .flag (some value) =>
      rw [found] at isNull
      cases isNull
  · intro isEmpty
    rw [isEmpty]
    cases key <;> rfl

theorem statedOver_empty_iff : StatedOver empty [] fields layer ↔ layer.StatedBy fields := by
  constructor
  · rintro ⟨distinct, -, stated, others⟩
    refine ⟨distinct, fun entry isField => ?_, ?_⟩
    · obtain ⟨key, isName, isForm⟩ := stated entry isField
      exact ⟨layer.value key, mem_named_iff.mpr ⟨key, isName, rfl⟩, isForm⟩
    · rintro ⟨name, value⟩ isNamed notField
      obtain ⟨key, rfl, rfl⟩ := mem_named_iff.mp isNamed
      exact toJson_value_eq_null_iff.mpr (others key notField)
  · rintro ⟨distinct, stated, others⟩
    refine ⟨distinct, fun key isSeen => absurd isSeen List.not_mem_nil, fun entry isField => ?_, ?_⟩
    · obtain ⟨value, isNamed, isForm⟩ := stated entry isField
      obtain ⟨key, isName, rfl⟩ := mem_named_iff.mp isNamed
      exact ⟨key, isName, isForm⟩
    · intro key notField
      have isNamed : (key.name, layer.value key) ∈ layer.named := mem_named_iff.mpr ⟨key, rfl, rfl⟩
      exact toJson_value_eq_null_iff.mp (others _ isNamed notField)

theorem statedOver_nil_iff : StatedOver base seen [] layer ↔ layer = base := by
  constructor
  · exact fun isStated => value_injective (funext fun key => isStated.others key List.not_mem_nil)
  · rintro rfl
    exact ⟨List.nodup_nil, fun _ _ => List.not_mem_nil,
      fun _ isField => absurd isField List.not_mem_nil, fun _ _ => rfl⟩

/-- **The first of some fields gives a key its value**, and the others state the layer on top. -/
theorem statedOver_cons_iff {entry : String × List Char} :
    StatedOver base seen (entry :: fields) layer ↔
      ∃ key value, entry.1 = key.name ∧ key ∉ seen ∧ value.IsFor key ∧
        entry.2 ∈ value.toJson.forms ∧
        StatedOver (base.set key value) (key :: seen) fields layer := by
  constructor
  · rintro ⟨distinct, fresh, stated, others⟩
    obtain ⟨⟨key, isName, isForm⟩, statedRest⟩ := List.forall_mem_cons.mp stated
    rw [List.map_cons, List.nodup_cons, isName] at distinct
    have notSeen : key ∉ seen := fun isSeen =>
      fresh key isSeen (by rw [List.map_cons, isName]; exact List.mem_cons_self)
    refine ⟨key, layer.value key, isName, notSeen, layer.value_isFor key, isForm,
      distinct.2, ?_, statedRest, ?_⟩
    · rw [List.forall_mem_cons]
      exact ⟨distinct.1, fun other isSeen isNamed =>
        fresh other isSeen (List.mem_cons_of_mem _ isNamed)⟩
    · intro other notNamed
      rw [value_set (layer.value_isFor key)]
      split
      next same => rw [same]
      next different =>
        refine others other fun isNamed => ?_
        rcases List.mem_cons.mp isNamed with same | isNamed
        · exact different (SettingsKey.name_injective (same.trans isName))
        · exact notNamed isNamed
  · rintro ⟨key, value, isName, notSeen, isFor, isForm, distinct, fresh, stated, others⟩
    obtain ⟨notAgain, freshRest⟩ := List.forall_mem_cons.mp fresh
    have isValue : layer.value key = value := by
      rw [others key notAgain, value_set isFor, if_pos rfl]
    refine ⟨?_, ?_, ?_, ?_⟩
    · rw [List.map_cons, List.nodup_cons, isName]
      exact ⟨notAgain, distinct⟩
    · intro other isSeen isNamed
      rcases List.mem_cons.mp isNamed with same | isNamed
      · have sameKey : other = key := SettingsKey.name_injective (same.trans isName)
        exact notSeen (sameKey ▸ isSeen)
      · exact freshRest other isSeen isNamed
    · exact List.forall_mem_cons.mpr ⟨⟨key, isName, isValue ▸ isForm⟩, stated⟩
    · intro other notNamed
      rw [List.map_cons, List.mem_cons, not_or, isName] at notNamed
      have different : other ≠ key := fun same => notNamed.1 (congrArg SettingsKey.name same)
      rw [others other notNamed.2, value_set isFor, if_neg different]

/-- Fields for keys that are new state a layer if each value is one that its key takes. -/
theorem exists_statedOver (base : Layer) (distinct : (fields.map Prod.fst).Nodup)
    (fresh : ∀ key ∈ seen, key.name ∉ fields.map Prod.fst)
    (known : ∀ entry ∈ fields, ∃ key : SettingsKey, entry.1 = key.name ∧ key.Takes entry.2) :
    ∃ layer, StatedOver base seen fields layer := by
  induction fields generalizing base seen with
  | nil => exact ⟨base, statedOver_nil_iff.mpr rfl⟩
  | cons entry fields step =>
    obtain ⟨⟨key, isName, takes⟩, knownRest⟩ := List.forall_mem_cons.mp known
    obtain ⟨value, isFor, isForm⟩ := SettingsKey.takes_iff.mp takes
    rw [List.map_cons, List.nodup_cons, isName] at distinct
    have notSeen : key ∉ seen := fun isSeen =>
      fresh key isSeen (by rw [List.map_cons, isName]; exact List.mem_cons_self)
    have freshRest : ∀ other ∈ key :: seen, other.name ∉ fields.map Prod.fst :=
      List.forall_mem_cons.mpr ⟨distinct.1, fun other isSeen isNamed =>
        fresh other isSeen (List.mem_cons_of_mem _ isNamed)⟩
    obtain ⟨layer, isStated⟩ := step (base.set key value) distinct.2 freshRest knownRest
    exact ⟨layer, statedOver_cons_iff.mpr ⟨key, value, isName, notSeen, isFor, isForm, isStated⟩⟩

/-- What a layer states is at fault nowhere. -/
theorem StatedOver.not_faultAmong (isStated : StatedOver base seen fields layer) :
    ¬ FaultAmong fields := by
  -- The value of a key that a layer states is one that the key takes.
  have takes (key : SettingsKey) {form : List Char} (isField : (key.name, form) ∈ fields) :
      key.Takes form := by
    obtain ⟨other, isName, isForm⟩ := isStated.stated _ isField
    obtain rfl := SettingsKey.name_injective isName
    exact SettingsKey.takes_iff.mpr ⟨_, layer.value_isFor key, isForm⟩
  intro fault
  cases fault with
  | unknownKey isField noTextKey noFlagKey =>
    obtain ⟨key, rfl, -⟩ := isStated.stated _ isField
    by_cases isFlag : key.takesFlag = true
    · exact noFlagKey (SettingsKey.name_of_takesFlag isFlag)
    · exact noTextKey (mem_textKeys_iff.mpr ⟨key, rfl, Bool.eq_false_of_not_eq_true isFlag⟩)
  | repeatedKey repeated => exact repeated isStated.distinct
  | noText isField isTextKey notNull notString =>
    obtain ⟨key, rfl, isText⟩ := mem_textKeys_iff.mp isTextKey
    rcases takes key isField with isNull | isKind
    · exact notNull isNull
    · rw [if_neg (by simp [isText])] at isKind
      obtain ⟨value, isString⟩ := isKind
      exact notString value isString
  | noFlag isField notNull notTrue notFalse =>
    rcases takes .strictTree isField with isNull | isTrue | isFalse
    · exact notNull isNull
    · exact notTrue isTrue
    · exact notFalse isFalse

/-- **Fields state a layer if and only if none of them is at fault.** -/
theorem exists_statedBy_iff : (∃ layer : Layer, layer.StatedBy fields) ↔ ¬ FaultAmong fields := by
  constructor
  · rintro ⟨layer, isStated⟩
    exact (statedOver_empty_iff.mpr isStated).not_faultAmong
  · intro noFault
    have distinct : (fields.map Prod.fst).Nodup := by
      by_contra repeated
      exact noFault (.repeatedKey repeated)
    have known : ∀ entry ∈ fields, ∃ key : SettingsKey, entry.1 = key.name ∧
        key.Takes entry.2 := by
      rintro ⟨name, form⟩ isField
      by_cases isTextKey : name ∈ textKeys
      · obtain ⟨key, rfl, isText⟩ := mem_textKeys_iff.mp isTextKey
        refine ⟨key, rfl, ?_⟩
        by_contra wrong
        rw [SettingsKey.Takes, if_neg (by simp [isText]), not_or, not_exists] at wrong
        exact noFault (.noText isField isTextKey wrong.1 wrong.2)
      · by_cases isFlagKey : name = "strict-tree"
        · subst isFlagKey
          refine ⟨.strictTree, rfl, ?_⟩
          by_contra wrong
          rw [SettingsKey.Takes, if_pos (by decide), not_or, not_or] at wrong
          exact noFault (.noFlag isField wrong.1 wrong.2.1 wrong.2.2)
        · exact absurd (.unknownKey isField isTextKey isFlagKey) noFault
    obtain ⟨layer, isStated⟩ := exists_statedOver empty distinct
      (fun key isSeen => absurd isSeen List.not_mem_nil) known
    exact ⟨layer, statedOver_empty_iff.mp isStated⟩

end Layer

/-! ### Reading an object -/

namespace JsonFile

variable {first : Bool} {seen : List SettingsKey} {base layer : Layer}
  {fields : List (String × List Char)} {text rest after : List Char} {fuel : Nat}

/-- A field whose key is new and whose value is for it is read, and then the others. -/
theorem readFields_cons_eq_ok_iff {entry : String × List Char}
    {inside behind afterColon : List Char} (isValue : JsonForm.IsValue entry.2)
    (isKey : nextKey first text = .ok (some inside))
    (isName : readText inside = .ok (entry.1, behind))
    (isColon : skipBlanks behind = ':' :: afterColon)
    (isForm : skipBlanks afterColon = entry.2 ++ rest) {result : Layer × List Char} :
    readFields (fuel + 1) first seen base text = .ok result ↔
      ∃ key value, entry.1 = key.name ∧ key ∉ seen ∧ value.IsFor key ∧
        entry.2 ∈ value.toJson.forms ∧
        readFields fuel false (key :: seen) (base.set key value) rest = .ok result := by
  rw [readFields, isKey, ok_bind]
  simp only [isName, ok_bind]
  cases found : SettingsKey.ofName? entry.1 with
  | none =>
    refine iff_of_false (fun failed => nomatch failed) ?_
    rintro ⟨key, value, isKnown, -⟩
    rw [SettingsKey.ofName?_eq_some_iff.mpr isKnown] at found
    cases found
  | some key =>
    have isKnown := SettingsKey.ofName?_eq_some_iff.mp found
    dsimp only
    by_cases isSeen : seen.contains key = true
    · rw [if_pos isSeen]
      refine iff_of_false (fun failed => nomatch failed) ?_
      rintro ⟨other, value, isOther, notSeen, -⟩
      obtain rfl := SettingsKey.name_injective (isKnown.symm.trans isOther)
      exact notSeen (List.contains_iff_mem.mp isSeen)
    · rw [if_neg isSeen, isColon]
      refine bind_eq_ok_iff.trans ⟨?_, ?_⟩
      · rintro ⟨⟨value, behindValue⟩, read, goesOn⟩
        obtain ⟨rfl, isFor, isTaken⟩ := (readValue_eq_ok_iff isValue isForm).mp read
        exact ⟨key, value, isKnown, fun again => isSeen (List.contains_iff_mem.mpr again), isFor,
          isTaken, goesOn⟩
      · rintro ⟨other, value, isOther, -, isFor, isTaken, goesOn⟩
        obtain rfl := SettingsKey.name_injective (isKnown.symm.trans isOther)
        have read := (readValue_eq_ok_iff isValue isForm).mpr ⟨rfl, isFor, isTaken⟩
        exact ⟨(value, rest), read, goesOn⟩

/-- **The fields of an object are read if and only if they state a layer**, which is then given. -/
theorem readFields_eq_ok_iff (areValues : ∀ entry ∈ fields, JsonForm.IsValue entry.2)
    (follows : Follows (JsonForm.left first fields) text rest) (enough : fields.length < fuel) :
    readFields fuel first seen base text = .ok (layer, after) ↔
      after = rest ∧ Layer.StatedOver base seen fields layer := by
  obtain ⟨fuel, rfl⟩ : ∃ less, fuel = less + 1 := ⟨fuel - 1, by omega⟩
  induction fields generalizing first seen base text fuel with
  | nil =>
    have closes := JsonForm.skipBlanks_of_left_nil follows
    have isLast : nextKey first text = .ok none := by
      rw [nextKey, closes]
      rfl
    have given : readFields (fuel + 1) first seen base text = .ok (base, rest) := by
      rw [readFields, isLast, closes]
      rfl
    rw [given, Layer.statedOver_nil_iff]
    simp [eq_comm, and_comm]
  | cons entry fields step =>
    obtain ⟨isValue, restValues⟩ := List.forall_mem_cons.mp areValues
    obtain ⟨inside, behind, afterColon, middle, isKey, isName, isColon, isForm, isLeft⟩ :=
      JsonForm.exists_of_left_cons isValue follows
    obtain ⟨fuel, rfl⟩ : ∃ less, fuel = less + 1 := ⟨fuel - 1, by simp at enough; omega⟩
    rw [readFields_cons_eq_ok_iff isValue isKey isName isColon isForm, Layer.statedOver_cons_iff]
    have stillEnough := Nat.lt_of_succ_lt_succ enough
    constructor
    · rintro ⟨key, value, isKnown, notSeen, isFor, isTaken, goesOn⟩
      obtain ⟨rfl, isStated⟩ := (step restValues isLeft fuel stillEnough).mp goesOn
      exact ⟨rfl, key, value, isKnown, notSeen, isFor, isTaken, isStated⟩
    · rintro ⟨rfl, key, value, isKnown, notSeen, isFor, isTaken, isStated⟩
      exact ⟨key, value, isKnown, notSeen, isFor, isTaken,
        (step restValues isLeft fuel stillEnough).mpr ⟨rfl, isStated⟩⟩

/-- **A text with an object is read if and only if its fields state a layer.** -/
theorem read_eq_ok_iff (isObject : text ∈ JsonForm.padded (JsonForm.ofFields fields))
    (areValues : ∀ entry ∈ fields, JsonForm.IsValue entry.2) :
    read text = .ok layer ↔ layer.StatedBy fields := by
  obtain ⟨behind, front, isBlanks⟩ := Follows.mul_iff.mp (Follows.nil_iff.mpr isObject)
  obtain ⟨middle, blanksFirst, isForm⟩ := Follows.mul_iff.mp front
  obtain ⟨inside, rfl, isLeft⟩ := JsonForm.left_of_ofFields isForm
  have opens : skipBlanks text = '\x7b' :: inside := JsonForm.skipBlanks_of_follows blanksFirst rfl
  have ends : skipBlanks behind = [] := JsonForm.skipBlanks_of_follows isBlanks rfl
  have isTop : readTop text = readFields (inside.length + 1) true [] Layer.empty inside := by
    rw [readTop, opens]
    rfl
  have enough := Nat.lt_succ_of_le (JsonForm.length_le_of_left isLeft)
  rw [← Layer.statedOver_empty_iff, read, isTop, bind_eq_ok_iff]
  constructor
  · rintro ⟨⟨other, after⟩, isRead, isDone⟩
    obtain ⟨rfl, isStated⟩ := (readFields_eq_ok_iff areValues isLeft enough).mp isRead
    dsimp only at isDone
    rw [ends] at isDone
    cases isDone
    exact isStated
  · intro isStated
    refine ⟨(layer, behind), (readFields_eq_ok_iff areValues isLeft enough).mpr ⟨rfl, isStated⟩, ?_⟩
    dsimp only
    rw [ends]
    rfl

end JsonFile

/-! ### Settings files -/

theorem jsonLayer_eq_ok_iff {path : String} {text : List Char} {layer : Layer} :
    jsonLayer path text = .ok layer ↔ JsonFile.read text = .ok layer := by
  unfold jsonLayer
  cases JsonFile.read text with
  | ok given =>
    constructor
    · intro done
      cases done
      rfl
    · intro done
      cases done
      rfl
  | error fault => exact iff_of_false (fun failed => nomatch failed) fun failed => nomatch failed

/-- A file in JSON that gives no layer is malformed, and no other one is. -/
theorem jsonLayer_malformed_iff {path : String} {text : List Char} :
    (∃ words, jsonLayer path text = .error (.malformed path words)) ↔
      ¬ ∃ layer, JsonFile.read text = .ok layer := by
  unfold jsonLayer
  cases JsonFile.read text with
  | ok given =>
    exact iff_of_false (fun ⟨_, failed⟩ => nomatch failed) (not_not_intro ⟨given, rfl⟩)
  | error fault => exact iff_of_true ⟨_, rfl⟩ fun ⟨_, done⟩ => nomatch done

/-- **A settings file that holds an object is loaded as the layer that its fields state**, whatever
their order and the forms of their texts. It is refused as malformed if and only if one of its
fields is at fault. -/
theorem settings_object_loaded {tree : FileTree} {path text : String}
    (isJson : Path.extension? path = some "json") (saved : tree.read path = .ok text.toUTF8)
    {fields : List (String × List Char)}
    (isObject : text.toList ∈ JsonForm.padded (JsonForm.ofFields fields))
    (areValues : ∀ entry ∈ fields, JsonForm.IsValue entry.2) :
    (∀ layer : Layer, loadSettings tree path = .ok layer ↔ layer.StatedBy fields) ∧
    ((∃ words, loadSettings tree path = .error (.malformed path words)) ↔ FaultAmong fields) := by
  have isRead : ∀ layer : Layer, JsonFile.read text.toList = .ok layer ↔ layer.StatedBy fields :=
    fun layer => JsonFile.read_eq_ok_iff isObject areValues
  rw [loadSettings_json isJson saved]
  refine ⟨fun layer => jsonLayer_eq_ok_iff.trans (isRead layer), ?_⟩
  rw [jsonLayer_malformed_iff, exists_congr isRead, Layer.exists_statedBy_iff, not_not]

/-- An object with keys in another order than the usual one, a key that is left open, and texts with
characters that are escaped. -/
def reorderedRules : List (String × Json) :=
  [("strict-tree", .bool true), ("test-class-name", .string "*Überprüfung\n"),
    ("method-tag-tree", .null), ("class-tag-tree", .string "\"story\">\\tag\x07")]

/-- What that object states. -/
def reorderedLayer : Layer :=
  { classTagTree := some "\"story\">\\tag\x07", testClassName := some "*Überprüfung\n",
    strictTree := some true }

/-- An object with a key that is not spelled as it should be. -/
def misspelledRules : List (String × Json) :=
  [("strict-tree", .bool true), ("class_tag_tree", .string "story")]

/-- A working directory with both objects. -/
def rulesTree : FileTree :=
  ⟨[(["work"], .directory),
    (["work", "rules.json"], .file (Json.object reorderedRules).pretty.toUTF8),
    (["work", "typo.json"], .file (Json.object misspelledRules).pretty.toUTF8)], ["work"]⟩

theorem read_reorderedRules :
    rulesTree.read "rules.json" = .ok (Json.object reorderedRules).pretty.toUTF8 :=
  FileTree.read_name (by decide) rfl (by decide) rfl rfl

theorem read_misspelledRules :
    rulesTree.read "typo.json" = .ok (Json.object misspelledRules).pretty.toUTF8 :=
  FileTree.read_name (by decide) rfl (by decide) rfl rfl

theorem statedBy_reorderedRules :
    reorderedLayer.StatedBy (Json.writtenFields reorderedRules) where
  distinct := by decide
  stated := by
    refine List.forall_mem_cons.mpr ⟨⟨.flag (some true), by decide, rfl⟩,
      List.forall_mem_cons.mpr ⟨⟨.text (some _), by decide, Json.quote_mem_string _⟩,
        List.forall_mem_cons.mpr ⟨⟨.text none, by decide, rfl⟩,
          List.forall_mem_singleton.mpr ⟨.text (some _), by decide, Json.quote_mem_string _⟩⟩⟩⟩
  others := by
    intro entry isNamed notField
    simp only [Layer.named, List.mem_cons, List.not_mem_nil, or_false] at isNamed
    rcases isNamed with rfl | rfl | rfl | rfl | rfl
    · exact absurd (by decide) notField
    · exact absurd (by decide) notField
    · exact absurd (by decide) notField
    · rfl
    · exact absurd (by decide) notField

theorem settings_object_loaded_reordered :
    Path.extension? "rules.json" = some "json" ∧
      rulesTree.read "rules.json" = .ok (Json.object reorderedRules).pretty.toUTF8 ∧
      loadSettings rulesTree "rules.json" = .ok reorderedLayer ∧
      rulesTree.read "typo.json" = .ok (Json.object misspelledRules).pretty.toUTF8 ∧
      ∃ words, loadSettings rulesTree "typo.json" = .error (.malformed "typo.json" words) := by
  have isJson : Path.extension? "rules.json" = some "json" := by decide +kernel
  have alsoJson : Path.extension? "typo.json" = some "json" := by decide +kernel
  have areValues : ∀ entry ∈ Json.writtenFields reorderedRules, JsonForm.IsValue entry.2 :=
    List.forall_mem_cons.mpr ⟨.yes, List.forall_mem_cons.mpr ⟨.string (Json.quote_mem_string _),
      List.forall_mem_cons.mpr ⟨.null, List.forall_mem_singleton.mpr
        (.string (Json.quote_mem_string _))⟩⟩⟩
  have otherValues : ∀ entry ∈ Json.writtenFields misspelledRules, JsonForm.IsValue entry.2 :=
    List.forall_mem_cons.mpr ⟨.yes, List.forall_mem_singleton.mpr
      (.string (Json.quote_mem_string _))⟩
  have isFault : FaultAmong (Json.writtenFields misspelledRules) :=
    .unknownKey (List.mem_cons_of_mem _ List.mem_cons_self) (by decide) (by decide)
  obtain ⟨loaded, -⟩ :=
    settings_object_loaded isJson read_reorderedRules (Json.pretty_mem_ofFields _) areValues
  obtain ⟨-, refused⟩ :=
    settings_object_loaded alsoJson read_misspelledRules (Json.pretty_mem_ofFields _) otherValues
  exact ⟨isJson, read_reorderedRules, (loaded _).mpr statedBy_reorderedRules, read_misspelledRules,
    refused.mpr isFault⟩

end TagAudit
