/-
**Diagnostics and their wording.**

A diagnostic says which definition misses which tags. Its message is a template in which the
placeholders for name, tree and missing tags are filled in.

* `fillTemplate` fills in one pass: what has been filled in is not looked at again, and a brace
  that opens no known placeholder stands for itself;
* `Diagnostic.message` is the filled template of the diagnostic's kind.
-/

import TagAudit.Module.Basic

namespace TagAudit

/-- What kind of definition misses tags. -/
inductive DiagnosticKind where
  | classTags
  | methodTags
deriving Repr, DecidableEq

namespace DiagnosticKind

/-- The short code of the kind. -/
def code : DiagnosticKind → String
  | classTags => "AL001"
  | methodTags => "AL002"

/-- The long name of the kind. -/
def name : DiagnosticKind → String
  | classTags => "ClassMissingAllureError"
  | methodTags => "MethodMissingAllureError"

/-- The word with which a message of the kind starts. -/
def word : DiagnosticKind → String
  | classTags => "Class"
  | methodTags => "Method"

/-- The message of the kind with its placeholders open. -/
def template (kind : DiagnosticKind) : String :=
  kind.word ++ " '\x7bname\x7d' should have tags the right position: \x7btree\x7d. " ++
    "Required '\x7bdeco\x7d' decorators"

end DiagnosticKind

/-- The brace that opens a placeholder. -/
def openBrace : Char := '\x7b'

/-- The brace that closes a placeholder. -/
def closeBrace : Char := '\x7d'

/-- The key of a placeholder whose opening brace has been read, and the text after its closing
brace. -/
def placeholderKey? : List Char → Option (List Char × List Char)
  | [] => none
  | c :: rest =>
    if c = closeBrace then some ([], rest)
    else (placeholderKey? rest).map fun (key, after) => (c :: key, after)

/-- The text after a placeholder is shorter than the text in which it was found. -/
theorem placeholderKey?_length_lt {text key after : List Char}
    (found : placeholderKey? text = some (key, after)) : after.length < text.length := by
  induction text generalizing key with
  | nil => simp [placeholderKey?] at found
  | cons c rest step =>
    rw [placeholderKey?] at found
    split at found
    · simp_all
    · obtain ⟨⟨inner, left⟩, inside, equal⟩ := Option.map_eq_some_iff.mp found
      simp only [Prod.mk.injEq] at equal
      rw [equal.2] at inside
      exact Nat.lt_succ_of_lt (step inside)

/-- The value of a key, the first binding deciding. -/
def lookupKey (bindings : List (List Char × List Char)) (key : List Char) : Option (List Char) :=
  (bindings.find? (·.1 = key)).map (·.2)

/-- Fills the known placeholders of a template with the values bound to their keys. -/
def fillTemplate (bindings : List (List Char × List Char)) (template : List Char) : List Char :=
  match template with
  | [] => []
  | c :: rest =>
    if c = openBrace then
      match found : placeholderKey? rest with
      | some (key, after) =>
        have := placeholderKey?_length_lt found
        match lookupKey bindings key with
        | some value => value ++ fillTemplate bindings after
        | none => openBrace :: fillTemplate bindings rest
      | none => openBrace :: fillTemplate bindings rest
    else c :: fillTemplate bindings rest
termination_by template.length

/-- A definition that misses tags: its kind, position and name, the tree as it was written and
the missing tags joined by commas. -/
structure Diagnostic where
  kind : DiagnosticKind
  location : Location
  name : String
  tree : String
  missing : String
deriving Repr, DecidableEq

namespace Diagnostic

/-- The diagnostic for a list of missing tags. -/
def ofMissing (kind : DiagnosticKind) (location : Location) (name tree : String)
    (missing : List String) : Diagnostic where
  kind := kind
  location := location
  name := name
  tree := tree
  missing := String.intercalate "," missing

/-- The short code of the diagnostic. -/
def code (diagnostic : Diagnostic) : String := diagnostic.kind.code

/-- The values that the template's placeholders stand for. -/
def arguments (diagnostic : Diagnostic) : List (String × String) :=
  [("name", diagnostic.name), ("tree", diagnostic.tree), ("deco", diagnostic.missing)]

/-- The text of the diagnostic. -/
def message (diagnostic : Diagnostic) : String :=
  String.ofList (fillTemplate
    (diagnostic.arguments.map fun (key, value) => (key.toList, value.toList))
    diagnostic.kind.template.toList)

end Diagnostic

end TagAudit
