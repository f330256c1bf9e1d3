/-
**Objects in JSON, field by field.**

An object is a list of fields, each a key and the text of its value, which may be the text of any
JSON value. The reader of settings comes from one field to the next.

* `JsonForm.IsValue` are the texts of all values, and `JsonForm.ofFields` those of an object with
  given fields;
* `JsonForm.IsValue.shape`: what the text of a value starts with;
* `JsonForm.exists_of_left_cons`: the next field is read up to its value, and `JsonForm.left` says
  what is left of the object behind it;
* `Json.pretty_mem_ofFields`: an object that is written has its fields.
-/

import TagAudit.Proofs.JsonReport

namespace TagAudit

/-! ### Any values -/

namespace JsonForm

/-- One or more decimal digits. -/
def digits : Language Char := {text | text ≠ [] ∧ ∀ c ∈ text, c.isDigit = true}

/-- The digits of any number, without zeros in front. -/
def whole : Language Char := {text | ∃ value, text ∈ number value}

/-- The numbers: a whole one, maybe with a sign, a fraction and an exponent. -/
def anyNumber : Language Char :=
  (1 + {['-']}) * whole * (1 + {['.']} * digits) *
    (1 + {['e'], ['E']} * (1 + {['+'], ['-']}) * digits)

/-- A field whose value is written in one way. -/
def fieldOf (entry : String × List Char) : Language Char := field entry.1 {entry.2}

/-- The forms of an object with the given fields. -/
def ofFields (fields : List (String × List Char)) : Language Char :=
  inBrackets '\x7b' '\x7d' (fields.map fieldOf)

/-- The text of a value. -/
inductive IsValue : List Char → Prop
  | null : IsValue "null".toList
  | yes : IsValue "true".toList
  | no : IsValue "false".toList
  | number {form : List Char} (isNumber : form ∈ anyNumber) : IsValue form
  | string {value : String} {form : List Char} (isString : form ∈ string value) : IsValue form
  | array {items : List (List Char)} {form : List Char} (areValues : ∀ item ∈ items, IsValue item)
      (isArray : form ∈ inBrackets '[' ']' (items.map fun item => {item})) : IsValue form
  | object {fields : List (String × List Char)} {form : List Char}
      (areValues : ∀ entry ∈ fields, IsValue entry.2) (isObject : form ∈ ofFields fields) :
      IsValue form

/-- A character that starts a number, an array or an object. -/
def StartsOther (c : Char) : Prop := c.isDigit = true ∨ c = '-' ∨ c = '[' ∨ c = '\x7b'

instance (c : Char) : Decidable (StartsOther c) := inferInstanceAs (Decidable (_ ∨ _ ∨ _ ∨ _))

/-- A number starts with a digit or a sign. -/
theorem startsOther_of_anyNumber {form : List Char} (isNumber : form ∈ anyNumber) :
    ∃ c rest, form = c :: rest ∧ StartsOther c := by
  obtain ⟨_, withFraction, _, -, rfl⟩ := Language.mem_mul.mp isNumber
  obtain ⟨_, withSign, _, -, rfl⟩ := Language.mem_mul.mp withFraction
  obtain ⟨sign, isSign, _, ⟨_, someDigit, areDigits, -⟩, rfl⟩ := Language.mem_mul.mp withSign
  obtain ⟨c, others, rfl⟩ := List.exists_cons_of_ne_nil someDigit
  rcases (Language.mem_add _ _ _).mp isSign with rfl | rfl
  · exact ⟨c, _, rfl, .inl (areDigits c List.mem_cons_self)⟩
  · exact ⟨'-', _, rfl, .inr (.inl rfl)⟩

/-- A value is one of three words or a string, or it starts in another way. -/
theorem IsValue.shape {form : List Char} (isValue : IsValue form) :
    form = "null".toList ∨ form = "true".toList ∨ form = "false".toList ∨
      (∃ value, form ∈ JsonForm.string value) ∨ ∃ c rest, form = c :: rest ∧ StartsOther c := by
  cases isValue with
  | null => exact .inl rfl
  | yes => exact .inr (.inl rfl)
  | no => exact .inr (.inr (.inl rfl))
  | string isString => exact .inr (.inr (.inr (.inl ⟨_, isString⟩)))
  | number isNumber => exact .inr (.inr (.inr (.inr (startsOther_of_anyNumber isNumber))))
  | array areValues isArray =>
    obtain ⟨rest, isFront⟩ := opens_of_follows (Follows.nil_iff.mpr isArray)
    exact .inr (.inr (.inr (.inr ⟨'[', rest, isFront, .inr (.inr (.inl rfl))⟩)))
  | object areValues isObject =>
    obtain ⟨rest, isFront⟩ := opens_of_follows (Follows.nil_iff.mpr isObject)
    exact .inr (.inr (.inr (.inr ⟨'\x7b', rest, isFront, .inr (.inr (.inr rfl))⟩)))

theorem StartsOther.not_blank {c : Char} (starts : StartsOther c) : JsonFile.isBlank c = false := by
  by_contra isBlank
  simp only [Bool.not_eq_false, JsonFile.isBlank, Bool.or_eq_true, beq_iff_eq] at isBlank
  rcases isBlank with ((rfl | rfl) | rfl) | rfl <;> revert starts <;> decide

/-- A value starts with what is no blank. -/
theorem IsValue.exists_cons {form : List Char} (isValue : IsValue form) :
    ∃ c rest, form = c :: rest ∧ JsonFile.isBlank c = false := by
  rcases isValue.shape with rfl | rfl | rfl | ⟨value, isString⟩ | ⟨c, rest, rfl, starts⟩
  · exact ⟨'n', _, rfl, rfl⟩
  · exact ⟨'t', _, rfl, rfl⟩
  · exact ⟨'f', _, rfl, rfl⟩
  · obtain ⟨rest, -, rfl, -⟩ := Follows.of_token_mul (Follows.nil_iff.mpr isString)
    exact ⟨'"', rest, rfl, rfl⟩
  · exact ⟨c, rest, rfl, starts.not_blank⟩

theorem fieldOf_startLikeValues : StartLikeValues fieldOf := by
  intro entry text rest follows
  obtain ⟨after, isFront⟩ := opens_of_follows_field follows
  exact ⟨'"', after, isFront, rfl⟩

/-- What is left of an object when its next field is looked for. Behind the first field a comma
comes before each other one. -/
def left (first : Bool) (fields : List (String × List Char)) : Language Char :=
  match first, fields with
  | true, [] => blanks * {['\x7d']}
  | true, entry :: rest => padded (fieldOf entry) * more '\x7d' (rest.map fieldOf)
  | false, fields => blanks * more '\x7d' (fields.map fieldOf)

section Left

variable {first : Bool} {fields : List (String × List Char)} {text rest : List Char}

/-- Behind the opening brace of an object all its fields are left. -/
theorem left_of_ofFields (follows : Follows (ofFields fields) text rest) :
    ∃ inside, text = '\x7b' :: inside ∧ Follows (left true fields) inside rest := by
  cases fields with
  | nil =>
    obtain ⟨inside, middle, rfl, isBlanks, isClosed⟩ := Follows.of_token_mul follows
    exact ⟨inside, rfl, Follows.mul_iff.mpr ⟨middle, isBlanks, isClosed⟩⟩
  | cons entry others =>
    obtain ⟨inside, middle, rfl, isField, isMore⟩ := Follows.of_token_mul follows
    exact ⟨inside, rfl, Follows.mul_iff.mpr ⟨middle, isField, isMore⟩⟩

/-- If no field is left the closing brace comes next. -/
theorem skipBlanks_of_left_nil (follows : Follows (left first []) text rest) :
    JsonFile.skipBlanks text = '\x7d' :: rest := by
  have closes : Follows (blanks * {['\x7d']}) text rest := by
    cases first with
    | true => exact follows
    | false => exact follows
  obtain ⟨middle, isBlanks, isClosed⟩ := Follows.mul_iff.mp closes
  obtain rfl := Follows.singleton_iff.mp isClosed
  exact skipBlanks_of_follows isBlanks rfl

/-- **The next field that is left is read**: its key up to the quote that closes it, the colon and
the form of its value, behind which the others are left. -/
theorem exists_of_left_cons {entry : String × List Char} (isValue : IsValue entry.2)
    (follows : Follows (left first (entry :: fields)) text rest) :
    ∃ inside behind after middle, JsonFile.nextKey first text = .ok (some inside) ∧
      JsonFile.readText inside = .ok (entry.1, behind) ∧
      JsonFile.skipBlanks behind = ':' :: after ∧
      JsonFile.skipBlanks after = entry.2 ++ middle ∧ Follows (left false fields) middle rest := by
  -- The field without the comma in front of it, and what is left behind it.
  obtain ⟨front, middle, starts, isField, isLeft⟩ : ∃ front middle,
      (∀ inside, JsonFile.skipBlanks front = '"' :: inside →
        JsonFile.nextKey first text = .ok (some inside)) ∧
      Follows (padded (fieldOf entry)) front middle ∧
      Follows (more '\x7d' (fields.map fieldOf)) middle rest := by
    cases first with
    | true =>
      obtain ⟨middle, isField, isMore⟩ := Follows.mul_iff.mp follows
      refine ⟨text, middle, fun inside starts => ?_, isField, isMore⟩
      rw [JsonFile.nextKey, starts]
      rfl
    | false =>
      obtain ⟨comma, isBlanks, isMore⟩ := Follows.mul_iff.mp follows
      obtain ⟨front, middle, rfl, isField, isMore⟩ := Follows.of_token_mul isMore
      refine ⟨front, middle, fun inside starts => ?_, isField, isMore⟩
      rw [JsonFile.nextKey, skipBlanks_of_follows isBlanks rfl]
      simp only [starts]
      rfl
  obtain ⟨behindValue, isForm, isBlanks⟩ := exists_follows_of_padded fieldOf_startLikeValues isField
  obtain ⟨behindColon, isFront, isText⟩ := Follows.mul_iff.mp isForm
  obtain ⟨behind, isKey, isColon⟩ := Follows.mul_iff.mp isFront
  obtain ⟨inside, isQuote, readsKey⟩ := readText_of_follows isKey
  obtain rfl := Follows.singleton_iff.mp isText
  obtain ⟨c, others, isValueText, notBlank⟩ := isValue.exists_cons
  rw [isValueText, List.cons_append] at isColon
  obtain ⟨after, skipped, ends⟩ := colon_of_follows isColon notBlank
  refine ⟨inside, behind, after, behindValue, starts inside isQuote, readsKey, skipped, ?_,
    Follows.mul_iff.mpr ⟨middle, isBlanks, isLeft⟩⟩
  rw [ends, isValueText, List.cons_append]

/-- A text is longer than the number of pieces left in it before the closing bracket. -/
theorem length_lt_of_more {closing : Char} {pieces : List (Language Char)}
    (follows : Follows (more closing pieces) text rest) : pieces.length < text.length := by
  induction pieces generalizing text with
  | nil =>
    obtain rfl := Follows.singleton_iff.mp follows
    exact Nat.zero_lt_succ _
  | cons piece pieces step =>
    obtain ⟨_, middle, rfl, ⟨form, -, rfl⟩, isMore⟩ := Follows.of_token_mul follows
    have others := step isMore
    rw [List.length_cons, List.length_cons, List.length_append]
    omega

/-- A text is at least as long as the number of fields left in it. -/
theorem length_le_of_left (follows : Follows (left first fields) text rest) :
    fields.length ≤ text.length := by
  match first, fields with
  | true, [] => exact Nat.zero_le _
  | true, entry :: fields =>
    obtain ⟨middle, ⟨form, -, rfl⟩, isMore⟩ := Follows.mul_iff.mp follows
    have others := length_lt_of_more isMore
    rw [List.length_map] at others
    rw [List.length_cons, List.length_append]
    omega
  | false, fields =>
    obtain ⟨middle, ⟨form, -, rfl⟩, isMore⟩ := Follows.mul_iff.mp follows
    have others := length_lt_of_more isMore
    rw [List.length_map] at others
    rw [List.length_append]
    omega

end Left

end JsonForm

/-! ### Objects as they are written -/

/-- The fields of an object, each with its value as the pretty form has it. -/
def Json.writtenFields (fields : List (String × Json)) : List (String × List Char) :=
  fields.map fun entry => (entry.1, entry.2.write 1)

/-- **The pretty form of an object has its fields**, each with its value as it is written. -/
theorem Json.pretty_mem_ofFields (fields : List (String × Json)) :
    (Json.object fields).pretty.toList ∈
      JsonForm.padded (JsonForm.ofFields (writtenFields fields)) := by
  have written : (Json.object fields).write 0 ∈ JsonForm.ofFields (writtenFields fields) := by
    rw [JsonForm.ofFields, writtenFields, List.map_map]
    show bracketed '\x7b' '\x7d' 0 (writeFields 1 fields) ∈ _
    rw [writeFields_eq_map]
    refine bracketed_mem_inBrackets ?_
    rw [List.forall₂_map_left_iff, List.forall₂_map_right_iff, List.forall₂_same]
    exact fun entry _ => writeField_mem_field (Set.mem_singleton _)
  rw [pretty, String.toList_ofList]
  exact mem_padded_of_mem written

end TagAudit
