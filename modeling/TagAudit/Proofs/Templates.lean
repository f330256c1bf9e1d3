/-
**Filled templates.**

A template is filled in a single pass: what has been filled in is not looked at again, whatever
braces there are in it, and an unknown placeholder stays as it is written.

* `placeholderKey?_eq_some_iff`: a key ends at the first closing brace;
* `fillTemplate_text`, `fillTemplate_known`, `fillTemplate_unknown`: what becomes of each piece of a
  template, whatever comes behind it;
* `fillTemplate_pieces`: a template made of pieces is filled piece by piece;
* `fillTemplate_of_placeholders`: keys that stand for their own placeholders change no template;
* `Diagnostic.message_eq`: the wording of a diagnostic;
* `templates_filled_in_one_pass`: all of this.
-/

import Mathlib.Data.List.Nodup
import TagAudit.Check.Diagnostic

namespace TagAudit

/-- A key ends at the first closing brace. -/
theorem placeholderKey?_eq_some_iff {text key after : List Char} :
    placeholderKey? text = some (key, after) ↔
      text = key ++ closeBrace :: after ∧ closeBrace ∉ key := by
  induction text generalizing key with
  | nil => simp [placeholderKey?]
  | cons c rest step =>
    rw [placeholderKey?]
    by_cases closes : c = closeBrace
    · rw [if_pos closes, closes]
      constructor
      · intro found
        cases found
        exact ⟨rfl, List.not_mem_nil⟩
      · rintro ⟨split, noBrace⟩
        obtain ⟨rfl, behind⟩ | ⟨inner, rfl, -⟩ := List.cons_eq_append_iff.mp split
        · rw [(List.cons.inj behind).2]
        · exact absurd List.mem_cons_self noBrace
    · rw [if_neg closes, Option.map_eq_some_iff]
      constructor
      · rintro ⟨⟨inner, behind⟩, inside, equal⟩
        cases equal
        obtain ⟨split, noBrace⟩ := step.mp inside
        exact ⟨by rw [split, List.cons_append],
          List.not_mem_cons_of_ne_of_not_mem (Ne.symm closes) noBrace⟩
      · rintro ⟨split, noBrace⟩
        obtain ⟨-, behind⟩ | ⟨inner, rfl, inside⟩ := List.cons_eq_append_iff.mp split
        · exact absurd (List.cons.inj behind).1.symm closes
        · have noneInside : closeBrace ∉ inner := List.not_mem_of_not_mem_cons noBrace
          exact ⟨(inner, after), step.mpr ⟨inside, noneInside⟩, rfl⟩

/-- A placeholder as it is written. -/
def placeholder (key : List Char) : List Char := openBrace :: key ++ [closeBrace]

/-- A piece of a template: text of its own, a placeholder whose key is bound to a value, or one
whose key is not bound. -/
inductive TemplatePiece where
  | plain (text : List Char)
  | known (key value : List Char)
  | unknown (key : List Char)

namespace TemplatePiece

/-- A piece as the template has it. -/
def written : TemplatePiece → List Char
  | plain text => text
  | known key _ => placeholder key
  | unknown key => placeholder key

/-- A piece as the filled template has it. -/
def filled : TemplatePiece → List Char
  | plain text => text
  | known _ value => value
  | unknown key => placeholder key

/-- The piece is what it says it is under the given bindings. -/
def Fits (bindings : List (List Char × List Char)) : TemplatePiece → Prop
  | plain text => openBrace ∉ text
  | known key value => (key, value) ∈ bindings
  | unknown key => openBrace ∉ key ∧ closeBrace ∉ key ∧ key ∉ bindings.map Prod.fst

end TemplatePiece

section Pieces

variable {bindings : List (List Char × List Char)} {key value : List Char}

/-! ### Values of keys -/

/-- With one binding for a key the key has the value that is bound to it. -/
theorem lookupKey_eq_some (distinct : (bindings.map Prod.fst).Nodup)
    (bound : (key, value) ∈ bindings) : lookupKey bindings key = some value := by
  obtain ⟨binding, isFound⟩ : ∃ binding, bindings.find? (·.1 = key) = some binding :=
    Option.isSome_iff_exists.mp (List.find?_isSome.mpr ⟨_, bound, by simp⟩)
  have sameKey : binding.1 = key := by simpa using List.find?_some isFound
  have same : binding = (key, value) :=
    List.inj_on_of_nodup_map distinct (List.mem_of_find?_eq_some isFound) bound sameKey
  rw [lookupKey, isFound, same, Option.map_some]

theorem lookupKey_eq_none (unbound : key ∉ bindings.map Prod.fst) :
    lookupKey bindings key = none := by
  rw [lookupKey, Option.map_eq_none_iff, List.find?_eq_none]
  intro binding isBinding sameKey
  exact unbound (List.mem_map.mpr ⟨binding, isBinding, by simpa using sameKey⟩)

/-! ### Piece by piece -/

/-- A character other than an opening brace stands for itself. -/
theorem fillTemplate_cons {c : Char} (notOpen : c ≠ openBrace) (rest : List Char) :
    fillTemplate bindings (c :: rest) = c :: fillTemplate bindings rest := by
  rw [fillTemplate, if_neg notOpen]

/-- Text without an opening brace stands for itself. -/
theorem fillTemplate_text {text : List Char} (noBrace : openBrace ∉ text) (rest : List Char) :
    fillTemplate bindings (text ++ rest) = text ++ fillTemplate bindings rest := by
  induction text with
  | nil => rfl
  | cons c text step =>
    obtain ⟨notOpen, noneBehind⟩ := List.ne_and_not_mem_of_not_mem_cons noBrace
    rw [List.cons_append, fillTemplate_cons notOpen.symm, step noneBehind, List.cons_append]

/-- A known placeholder is filled, and the reading goes on behind it. -/
theorem fillTemplate_known (noBrace : closeBrace ∉ key)
    (isValue : lookupKey bindings key = some value) (rest : List Char) :
    fillTemplate bindings (placeholder key ++ rest) = value ++ fillTemplate bindings rest := by
  have found : placeholderKey? (key ++ closeBrace :: rest) = some (key, rest) :=
    placeholderKey?_eq_some_iff.mpr ⟨rfl, noBrace⟩
  have split : placeholder key ++ rest = openBrace :: (key ++ closeBrace :: rest) := by
    simp [placeholder]
  rw [split, fillTemplate]
  grind

/-- An unknown placeholder stays. Its brace stands for itself, and so does the text behind it, as
there is no further opening brace in it. -/
theorem fillTemplate_unknown (noOpen : openBrace ∉ key) (noClose : closeBrace ∉ key)
    (unbound : lookupKey bindings key = none) (rest : List Char) :
    fillTemplate bindings (placeholder key ++ rest) =
      placeholder key ++ fillTemplate bindings rest := by
  have found : placeholderKey? (key ++ closeBrace :: rest) = some (key, rest) :=
    placeholderKey?_eq_some_iff.mpr ⟨rfl, noClose⟩
  have split : placeholder key ++ rest = openBrace :: (key ++ closeBrace :: rest) := by
    simp [placeholder]
  have noBrace : openBrace ∉ key ++ [closeBrace] := by
    simp [noOpen, show openBrace ≠ closeBrace by decide]
  have stays : fillTemplate bindings (openBrace :: (key ++ closeBrace :: rest)) =
      openBrace :: fillTemplate bindings (key ++ closeBrace :: rest) := by
    rw [fillTemplate]
    grind
  rw [split, stays, List.append_cons, fillTemplate_text noBrace, ← List.cons_append]
  rfl

/-- **A template made of pieces is filled piece by piece**, whatever the values are. -/
theorem fillTemplate_pieces (distinct : (bindings.map Prod.fst).Nodup)
    (noBrace : ∀ key ∈ bindings.map Prod.fst, closeBrace ∉ key) {pieces : List TemplatePiece}
    (fit : ∀ piece ∈ pieces, piece.Fits bindings) :
    fillTemplate bindings (pieces.flatMap TemplatePiece.written) =
      pieces.flatMap TemplatePiece.filled := by
  induction pieces with
  | nil => rw [List.flatMap_nil, List.flatMap_nil, fillTemplate]
  | cons piece pieces step =>
    obtain ⟨fits, others⟩ := List.forall_mem_cons.mp fit
    rw [List.flatMap_cons, List.flatMap_cons, ← step others]
    cases piece with
    | plain text => exact fillTemplate_text fits _
    | known key value =>
      have isKey : key ∈ bindings.map Prod.fst := List.mem_map_of_mem fits
      exact fillTemplate_known (noBrace key isKey) (lookupKey_eq_some distinct fits) _
    | unknown key =>
      obtain ⟨noOpen, noClose, unbound⟩ := fits
      exact fillTemplate_unknown noOpen noClose (lookupKey_eq_none unbound) _

/-- **Keys that stand for their own placeholders change no template**, whatever braces are in it. -/
theorem fillTemplate_of_placeholders
    (themselves : ∀ binding ∈ bindings, binding.2 = placeholder binding.1)
    (template : List Char) : fillTemplate bindings template = template := by
  fun_induction fillTemplate bindings template with
  | case1 => rfl
  | case2 rest key after found _ value bound step =>
    obtain ⟨binding, isFound, rfl⟩ := Option.map_eq_some_iff.mp bound
    have sameKey : binding.1 = key := by simpa using List.find?_some isFound
    rw [step, themselves binding (List.mem_of_find?_eq_some isFound), sameKey,
      (placeholderKey?_eq_some_iff.mp found).1]
    simp [placeholder]
  | case3 rest key after found _ unbound step => rw [step]
  | case4 rest notFound step => rw [step]
  | case5 c rest notOpen step => rw [step]

end Pieces

/-! ### The wording of a diagnostic -/

/-- The pieces of the template of a kind. -/
def DiagnosticKind.pieces (kind : DiagnosticKind) (name tree missing : String) :
    List TemplatePiece :=
  [.plain (kind.word ++ " '").toList, .known "name".toList name.toList,
    .plain "' should have tags the right position: ".toList, .known "tree".toList tree.toList,
    .plain ". Required '".toList, .known "deco".toList missing.toList, .plain "' decorators".toList]

/-- **The wording of a diagnostic**, whatever its name, its tree and its missing tags are. -/
theorem Diagnostic.message_eq (diagnostic : Diagnostic) :
    diagnostic.message =
      diagnostic.kind.word ++ " '" ++ diagnostic.name ++
        "' should have tags the right position: " ++ diagnostic.tree ++ ". Required '" ++
        diagnostic.missing ++ "' decorators" := by
  obtain ⟨kind, location, name, tree, missing⟩ := diagnostic
  have isTemplate : kind.template.toList =
      (kind.pieces name tree missing).flatMap TemplatePiece.written := by
    simp [DiagnosticKind.template, DiagnosticKind.pieces, TemplatePiece.written, placeholder,
      openBrace, closeBrace]
  let bindings := [("name".toList, name.toList), ("tree".toList, tree.toList),
    ("deco".toList, missing.toList)]
  have isKey : bindings.map Prod.fst = ["name".toList, "tree".toList, "deco".toList] := rfl
  have fit : ∀ piece ∈ kind.pieces name tree missing, piece.Fits bindings := by
    have noBrace : openBrace ∉ (kind.word ++ " '").toList := by cases kind <;> decide
    simp only [DiagnosticKind.pieces, List.forall_mem_cons, TemplatePiece.Fits]
    exact ⟨noBrace, by simp [bindings], by decide, by simp [bindings], by decide,
      by simp [bindings], by decide, by simp⟩
  have filled := fillTemplate_pieces (by rw [isKey]; decide) (by rw [isKey]; decide) fit
  refine String.toList_injective ?_
  rw [message, String.toList_ofList, isTemplate]
  refine filled.trans ?_
  simp [DiagnosticKind.pieces, TemplatePiece.filled]

/-- **Templates are filled in a single pass.** If keys differ and have no closing brace, a template
made of pieces is filled piece by piece: text stays, a known placeholder gives way to its value, and
an unknown one stays. Any template at all stays as it is if keys stand for their own placeholders.
So the message of a diagnostic has the name, the tree and the missing tags in their places. -/
theorem templates_filled_in_one_pass :
    (∀ bindings : List (List Char × List Char), (bindings.map Prod.fst).Nodup →
      (∀ key ∈ bindings.map Prod.fst, closeBrace ∉ key) →
      ∀ pieces : List TemplatePiece, (∀ piece ∈ pieces, piece.Fits bindings) →
        fillTemplate bindings (pieces.flatMap TemplatePiece.written) =
          pieces.flatMap TemplatePiece.filled) ∧
    (∀ bindings : List (List Char × List Char),
      (∀ binding ∈ bindings, binding.2 = placeholder binding.1) →
      ∀ template : List Char, fillTemplate bindings template = template) ∧
    ∀ (kind : DiagnosticKind) (location : Location) (name tree : String) (missing : List String),
      (Diagnostic.ofMissing kind location name tree missing).message =
        kind.word ++ " '" ++ name ++ "' should have tags the right position: " ++ tree ++
          ". Required '" ++ String.intercalate "," missing ++ "' decorators" :=
  ⟨fun _ distinct noBrace _ fit => fillTemplate_pieces distinct noBrace fit,
    fun _ themselves template => fillTemplate_of_placeholders themselves template,
    fun kind location name tree missing =>
      (Diagnostic.ofMissing kind location name tree missing).message_eq⟩

/-- A value that looks like a placeholder, one that looks like half of one, stray closing braces and
a placeholder that nothing is bound to. -/
theorem templates_filled_in_one_pass_nested :
    fillTemplate [("name".toList, "\x7bdeco\x7d".toList), ("deco".toList, "\x7d \x7bname".toList)]
        "\x7d\x7bname\x7d\x7bother\x7d\x7d\x7bdeco\x7d".toList =
      "\x7d\x7bdeco\x7d\x7bother\x7d\x7d\x7d \x7bname".toList ∧
    fillTemplate [("name".toList, "\x7bname\x7d".toList)] "\x7b\x7bname\x7d \x7bname".toList =
      "\x7b\x7bname\x7d \x7bname".toList ∧
    (Diagnostic.ofMissing .methodTags ⟨4, 5⟩ "test_1" "title>\x7bdeco\x7d"
        ["\x7bdeco\x7d", "tag"]).message =
      "Method 'test_1' should have tags the right position: title>\x7bdeco\x7d. " ++
        "Required '\x7bdeco\x7d,tag' decorators" := by
  obtain ⟨filled, same, message⟩ := templates_filled_in_one_pass
  refine ⟨?_, same _ (by decide) _, message ..⟩
  exact filled
    [("name".toList, "\x7bdeco\x7d".toList), ("deco".toList, "\x7d \x7bname".toList)] (by decide)
    (by decide) [.plain "\x7d".toList, .known "name".toList "\x7bdeco\x7d".toList,
      .unknown "other".toList, .plain "\x7d".toList, .known "deco".toList "\x7d \x7bname".toList]
    (by simp [TemplatePiece.Fits]; decide)

end TagAudit
