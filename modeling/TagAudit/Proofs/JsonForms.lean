/-
**The written forms of JSON values.**

A value can be written in many ways: blanks may stand between the tokens, and a character of a
string may be written as it is or escaped in several ways. No text is a form of two values.

* `JsonForm.string` are the forms of a string, `Json.forms` those of a value and `Json.document` the
  whole texts that hold it;
* `JsonForm.readText_of_follows`: the reader of strings reads every form of a string;
* `Json.toldApart_forms`: a form of a value is a form of no other one, whatever comes behind it;
* `Json.document_unique`: a text holds at most one value.
-/

import Mathlib.Computability.Language
import Mathlib.Data.List.Forall2
import TagAudit.Proofs.Failing
import TagAudit.Settings.JsonFile
import TagAudit.Text.Json

namespace TagAudit

/-! ### The grammar -/

namespace JsonForm

/-- Any number of blanks. -/
def blanks : Language Char := {text | ∀ c ∈ text, JsonFile.isBlank c = true}

/-- The decimal digits of a number, without zeros in front. -/
def number (value : Nat) : Language Char :=
  {digits | digits ≠ [] ∧ (∀ c ∈ digits, c.isDigit = true) ∧
    (digits.head? = some '0' → digits = ['0']) ∧ Nat.ofDigitChars 10 digits 0 = value}

/-- An escape of four hexadecimal digits with the given value. -/
def IsHexEscape (value : Nat) (text : List Char) : Prop :=
  ∃ a b c d, text = ['\\', 'u', a, b, c, d] ∧ JsonFile.hexFour? a b c d = some value

/-- A form of one character of a string: the character as it is, unless it has to be escaped, a
letter that stands for it, its number, or the numbers of the two halves of its surrogate pair. -/
inductive IsChar (c : Char) : List Char → Prop
  | plain (isFree : 0x20 ≤ c.toNat ∧ c ≠ '"' ∧ c ≠ '\\') : IsChar c [c]
  | letter {letter : Char} (standsFor : JsonFile.shortEscape? letter = some c) :
      IsChar c ['\\', letter]
  | number {escape : List Char} (isEscape : IsHexEscape c.toNat escape) : IsChar c escape
  | pair {high low : Nat} {first second : List Char} (isHigh : 0xd800 ≤ high ∧ high ≤ 0xdbff)
      (isLow : 0xdc00 ≤ low ∧ low ≤ 0xdfff) (isPair : JsonFile.pairChar high low = c)
      (isFirst : IsHexEscape high first) (isSecond : IsHexEscape low second) :
      IsChar c (first ++ second)

/-- The forms of one character of a string. -/
def char (c : Char) : Language Char := {text | IsChar c text}

/-- The forms of a string. -/
def string (value : String) : Language Char :=
  {['"']} * (value.toList.map char).prod * {['"']}

/-- A piece of a text with blanks on both sides. -/
def padded (piece : Language Char) : Language Char := blanks * piece * blanks

/-- More pieces behind the first one, each after a comma, and the closing bracket. -/
def more (closing : Char) : List (Language Char) → Language Char
  | [] => {[closing]}
  | piece :: rest => {[',']} * padded piece * more closing rest

/-- Pieces in brackets, with commas between them. -/
def inBrackets (opening closing : Char) : List (Language Char) → Language Char
  | [] => {[opening]} * blanks * {[closing]}
  | piece :: rest => {[opening]} * padded piece * more closing rest

/-- The forms of a field of an object, given those of its value. -/
def field (key : String) (value : Language Char) : Language Char :=
  string key * padded {[':']} * value

end JsonForm

namespace Json

mutual

/-- The forms of a value. -/
def forms : Json → Language Char
  | .null => {"null".toList}
  | .bool true => {"true".toList}
  | .bool false => {"false".toList}
  | .number value => JsonForm.number value
  | .string value => JsonForm.string value
  | .array items => JsonForm.inBrackets '[' ']' (itemForms items)
  | .object fields => JsonForm.inBrackets '\x7b' '\x7d' (fieldForms fields)

/-- The forms of the items of an array. -/
def itemForms : List Json → List (Language Char)
  | [] => []
  | item :: rest => item.forms :: itemForms rest

/-- The forms of the fields of an object. -/
def fieldForms : List (String × Json) → List (Language Char)
  | [] => []
  | (key, value) :: rest => JsonForm.field key value.forms :: fieldForms rest

end

/-- The texts that hold a value and nothing else. -/
def document (value : Json) : Language Char := JsonForm.padded value.forms

/-! ### Induction over values -/

/-- Values are built from the items of arrays and the values of fields. -/
@[elab_as_elim]
theorem inductOn {motive : Json → Prop} (value : Json) (null : motive .null)
    (bool : ∀ value, motive (.bool value)) (number : ∀ value, motive (.number value))
    (string : ∀ value, motive (.string value))
    (array : ∀ items : List Json, (∀ item ∈ items, motive item) → motive (.array items))
    (object : ∀ fields : List (String × Json), (∀ field ∈ fields, motive field.2) →
      motive (.object fields)) : motive value := by
  refine @Json.rec motive (fun items => ∀ item ∈ items, motive item)
    (fun fields => ∀ field ∈ fields, motive field.2) (fun field => motive field.2) null bool number
    string array object ?_ ?_ ?_ ?_ (fun _ _ => id) value
  · exact fun _ member => absurd member List.not_mem_nil
  · exact fun _ _ first rest => List.forall_mem_cons.mpr ⟨first, rest⟩
  · exact fun _ member => absurd member List.not_mem_nil
  · exact fun _ _ first rest => List.forall_mem_cons.mpr ⟨first, rest⟩

/-- The forms of a field with its key. -/
def formsOfField (field : String × Json) : Language Char := JsonForm.field field.1 field.2.forms

theorem itemForms_eq_map (items : List Json) : itemForms items = items.map forms := by
  induction items with
  | nil => rfl
  | cons item rest step => rw [itemForms, step, List.map_cons]

theorem fieldForms_eq_map (fields : List (String × Json)) :
    fieldForms fields = fields.map formsOfField := by
  induction fields with
  | nil => rfl
  | cons field rest step =>
    obtain ⟨key, value⟩ := field
    rw [fieldForms, step, List.map_cons]
    rfl

end Json

/-! ### Texts that go on -/

/-- The text starts with a form, behind which the rest comes. -/
def Follows (form : Language Char) (text rest : List Char) : Prop :=
  ∃ front ∈ form, front ++ rest = text

/-- The text does not go on with a character that passes the test. -/
def StopsAt (test : Char → Bool) (text : List Char) : Prop := text.head?.any test = false

namespace Follows

variable {first second : Language Char} {text rest : List Char}

theorem mul_iff :
    Follows (first * second) text rest ↔
      ∃ middle, Follows first text middle ∧ Follows second middle rest := by
  constructor
  · rintro ⟨front, isForm, rfl⟩
    obtain ⟨front, isFirst, back, isSecond, rfl⟩ := Language.mem_mul.mp isForm
    exact ⟨back ++ rest, ⟨front, isFirst, (List.append_assoc _ _ _).symm⟩, back, isSecond, rfl⟩
  · rintro ⟨middle, ⟨front, isFirst, rfl⟩, back, isSecond, rfl⟩
    exact ⟨front ++ back, Language.mem_mul.mpr ⟨front, isFirst, back, isSecond, rfl⟩,
      List.append_assoc _ _ _⟩

theorem singleton_iff {token : List Char} : Follows {token} text rest ↔ text = token ++ rest := by
  constructor
  · rintro ⟨front, rfl, rfl⟩
    rfl
  · rintro rfl
    exact ⟨token, rfl, rfl⟩

/-- The same token leaves the same rest. -/
theorem singleton_unique {token otherRest : List Char} (follows : Follows {token} text rest)
    (otherFollows : Follows {token} text otherRest) : rest = otherRest :=
  List.append_cancel_left ((singleton_iff.mp follows).symm.trans (singleton_iff.mp otherFollows))

/-- One character comes before the first form. -/
theorem of_token_mul {c : Char} (follows : Follows ({[c]} * first * second) text rest) :
    ∃ front middle, text = c :: front ∧ Follows first front middle ∧
      Follows second middle rest := by
  obtain ⟨middle, before, isSecond⟩ := mul_iff.mp follows
  obtain ⟨front, isToken, isFirst⟩ := mul_iff.mp before
  exact ⟨front, middle, singleton_iff.mp isToken, isFirst, isSecond⟩

theorem nil_iff : Follows first text [] ↔ text ∈ first := by
  constructor
  · rintro ⟨front, isForm, rfl⟩
    rwa [List.append_nil]
  · exact fun isForm => ⟨text, isForm, List.append_nil text⟩

end Follows

namespace StopsAt

variable {test : Char → Bool} {front rest : List Char}

theorem cons_iff {c : Char} : StopsAt test (c :: rest) ↔ test c = false := Iff.rfl

theorem dropWhile_eq (stops : StopsAt test rest) : rest.dropWhile test = rest := by
  cases rest with
  | nil => rfl
  | cons c rest => rw [List.dropWhile_cons_of_neg (by rw [cons_iff.mp stops]; decide)]

theorem takeWhile_eq (stops : StopsAt test rest) : rest.takeWhile test = [] := by
  cases rest with
  | nil => rfl
  | cons c rest => rw [List.takeWhile_cons_of_neg (by rw [cons_iff.mp stops]; decide)]

/-- A run of characters that pass the test ends where the text stops. -/
theorem dropWhile_append (stops : StopsAt test rest) (run : ∀ c ∈ front, test c = true) :
    (front ++ rest).dropWhile test = rest := by
  rw [List.dropWhile_append_of_pos run, stops.dropWhile_eq]

theorem takeWhile_append (stops : StopsAt test rest) (run : ∀ c ∈ front, test c = true) :
    (front ++ rest).takeWhile test = front := by
  rw [List.takeWhile_append_of_pos run, stops.takeWhile_eq, List.append_nil]

end StopsAt

namespace JsonForm

variable {text rest : List Char}

/-- Blanks are skipped, up to what is not one. -/
theorem skipBlanks_of_follows (follows : Follows blanks text rest)
    (stops : StopsAt JsonFile.isBlank rest) : JsonFile.skipBlanks text = rest := by
  obtain ⟨front, allBlank, rfl⟩ := follows
  exact stops.dropWhile_append allBlank

/-- Blanks are no digits. -/
theorem stopsAt_digit_of_follows (follows : Follows blanks text rest)
    (stops : StopsAt Char.isDigit rest) : StopsAt Char.isDigit text := by
  obtain ⟨front, allBlank, rfl⟩ := follows
  cases front with
  | nil => exact stops
  | cons c front =>
    have isBlank : JsonFile.isBlank c = true := allBlank c List.mem_cons_self
    simp only [JsonFile.isBlank, Bool.or_eq_true, beq_iff_eq] at isBlank
    rcases isBlank with ((rfl | rfl) | rfl) | rfl <;> rfl

/-! ### Strings -/

theorem readHex_cons {a b c d : Char} {value : Nat}
    (isHex : JsonFile.hexFour? a b c d = some value) (rest : List Char) :
    JsonFile.readHex (a :: b :: c :: d :: rest) = .ok (value, rest) := by
  have long : ¬ (textBytes (a :: b :: c :: d :: rest)).length < 4 := by
    have pos : ∀ c : Char, 0 < (String.utf8EncodeChar c).length := fun c => by
      rw [String.length_utf8EncodeChar]
      exact c.utf8Size_pos
    have := pos a
    have := pos b
    have := pos c
    have := pos d
    simp only [textBytes, List.flatMap_cons, List.length_append]
    omega
  rw [JsonFile.readHex, if_neg long]
  simp only [isHex]

/-- The escape of a number is read as the number. -/
theorem readUnicode_of_isHexEscape {c : Char} {escape : List Char}
    (isEscape : IsHexEscape c.toNat escape) (rest : List Char) :
    ∃ digits, escape = '\\' :: 'u' :: digits ∧
      JsonFile.readUnicode (digits ++ rest) = .ok (c, rest) := by
  obtain ⟨a, b, c', d, rfl, isHex⟩ := isEscape
  refine ⟨[a, b, c', d], rfl, ?_⟩
  have noHalf : c.toNat < 0xd800 ∨ 0xdfff < c.toNat := c.valid.imp id And.left
  have notLow : ¬ (0xdc00 ≤ c.toNat ∧ c.toNat ≤ 0xdfff) := by omega
  have notHigh : c.toNat < 0xd800 ∨ 0xdbff < c.toNat := by omega
  refine bind_eq_ok_iff.mpr ⟨(c.toNat, rest), readHex_cons isHex rest, ?_⟩
  show (if _ then _ else _) = _
  rw [if_neg notLow, if_pos notHigh, Char.ofNat_toNat]
  rfl

/-- The escapes of the two halves of a surrogate pair are read as the character. -/
theorem readUnicode_of_pair {high low : Nat} {first second : List Char}
    (isHigh : 0xd800 ≤ high ∧ high ≤ 0xdbff) (isLow : 0xdc00 ≤ low ∧ low ≤ 0xdfff)
    (isFirst : IsHexEscape high first) (isSecond : IsHexEscape low second) (rest : List Char) :
    ∃ digits, first ++ second = '\\' :: 'u' :: digits ∧
      JsonFile.readUnicode (digits ++ rest) = .ok (JsonFile.pairChar high low, rest) := by
  obtain ⟨a, b, c, d, rfl, isHex⟩ := isFirst
  obtain ⟨a', b', c', d', rfl, isHex'⟩ := isSecond
  refine ⟨[a, b, c, d, '\\', 'u', a', b', c', d'], rfl, ?_⟩
  have notLow : ¬ (0xdc00 ≤ high ∧ high ≤ 0xdfff) := by omega
  have isHigh : ¬ (high < 0xd800 ∨ 0xdbff < high) := by omega
  have isLow : ¬ (low < 0xdc00 ∨ 0xdfff < low) := by omega
  refine bind_eq_ok_iff.mpr ⟨(high, '\\' :: 'u' :: a' :: b' :: c' :: d' :: rest),
    readHex_cons isHex _, ?_⟩
  show (if _ then _ else if _ then _ else _) = _
  rw [if_neg notLow, if_neg isHigh]
  refine bind_eq_ok_iff.mpr ⟨(low, rest), readHex_cons isHex' rest, ?_⟩
  show (if _ then _ else _) = _
  rw [if_neg isLow]
  rfl

/-- A form of a character is read as that character. -/
theorem readString_char {c : Char} {form chars after : List Char} {fuel : Nat}
    (isForm : IsChar c form) (isRead : JsonFile.readString fuel rest = .ok (chars, after)) :
    JsonFile.readString (fuel + 1) (form ++ rest) = .ok (c :: chars, after) := by
  have goesOn : ∀ {digits : List Char}, JsonFile.readUnicode (digits ++ rest) = .ok (c, rest) →
      JsonFile.readString (fuel + 1) ('\\' :: 'u' :: (digits ++ rest)) =
        .ok (c :: chars, after) := fun read =>
    bind_eq_ok_iff.mpr ⟨(c, rest), read, bind_eq_ok_iff.mpr ⟨(chars, after), isRead, rfl⟩⟩
  cases isForm with
  | plain isFree =>
    obtain ⟨shown, noQuote, noBackslash⟩ := isFree
    show (if _ then _ else if _ then _ else if _ then _ else _) = _
    rw [if_neg noQuote, if_neg noBackslash, if_neg (Nat.not_lt.mpr shown)]
    exact bind_eq_ok_iff.mpr ⟨(chars, after), isRead, rfl⟩
  | @letter letter standsFor =>
    -- The letter that starts a number stands for no character.
    have notNumber : letter ≠ 'u' := by
      rintro rfl
      cases standsFor
    simp [JsonFile.readString, standsFor, isRead]
  | number isEscape =>
    obtain ⟨digits, rfl, read⟩ := readUnicode_of_isHexEscape isEscape rest
    exact goesOn read
  | pair isHigh isLow isPair isFirst isSecond =>
    subst isPair
    obtain ⟨digits, isDigits, read⟩ := readUnicode_of_pair isHigh isLow isFirst isSecond rest
    rw [isDigits]
    exact goesOn read

theorem length_pos_of_isChar {c : Char} {form : List Char} (isForm : IsChar c form) :
    0 < form.length := by
  cases isForm with
  | plain | letter => exact Nat.succ_pos _
  | number isEscape =>
    obtain ⟨a, b, c', d, rfl, -⟩ := isEscape
    exact Nat.succ_pos _
  | pair isHigh isLow isPair isFirst isSecond =>
    obtain ⟨a, b, c', d, rfl, -⟩ := isFirst
    exact Nat.succ_pos _

/-- Forms of characters up to the closing quote are read as these characters. -/
theorem readString_chars {chars form : List Char} (isForm : form ∈ (chars.map char).prod)
    {fuel : Nat} (enough : form.length < fuel) (rest : List Char) :
    JsonFile.readString fuel (form ++ '"' :: rest) = .ok (chars, rest) := by
  obtain ⟨fuel, rfl⟩ : ∃ left, fuel = left + 1 := ⟨fuel - 1, by omega⟩
  induction chars generalizing form fuel with
  | nil =>
    obtain rfl : form = [] := isForm
    rfl
  | cons c chars step =>
    rw [List.map_cons, List.prod_cons] at isForm
    obtain ⟨first, isFirst, others, areOthers, rfl⟩ := Language.mem_mul.mp isForm
    have pos : 0 < first.length := length_pos_of_isChar isFirst
    rw [List.length_append] at enough
    rw [List.append_assoc]
    obtain ⟨left, rfl⟩ : ∃ left, fuel = left + 1 := ⟨fuel - 1, by omega⟩
    exact readString_char isFirst (step areOthers left (by omega))

/-- **Every form of a string is read as the string.** -/
theorem readText_of_follows {value : String} (follows : Follows (string value) text rest) :
    ∃ inside, text = '"' :: inside ∧ JsonFile.readText inside = .ok (value, rest) := by
  obtain ⟨inside, closing, rfl, ⟨form, isForm, rfl⟩, isClosing⟩ := Follows.of_token_mul follows
  obtain rfl := Follows.singleton_iff.mp isClosing
  refine ⟨_, rfl, bind_eq_ok_iff.mpr ⟨(value.toList, rest), ?_, ?_⟩⟩
  · exact readString_chars isForm (by simp) rest
  · show Except.ok (String.ofList value.toList, rest) = _
    rw [String.ofList_toList]

/-- Pieces in brackets start with the opening bracket. -/
theorem opens_of_follows {opening closing : Char} {pieces : List (Language Char)}
    (follows : Follows (inBrackets opening closing pieces) text rest) :
    ∃ after, text = opening :: after := by
  cases pieces with
  | nil =>
    obtain ⟨after, -, isFront, -⟩ := Follows.of_token_mul follows
    exact ⟨after, isFront⟩
  | cons piece pieces =>
    obtain ⟨after, -, isFront, -⟩ := Follows.of_token_mul follows
    exact ⟨after, isFront⟩

/-- A field starts with the quote that opens its key. -/
theorem opens_of_follows_field {key : String} {value : Language Char}
    (follows : Follows (field key value) text rest) : ∃ after, text = '"' :: after := by
  obtain ⟨middle, front, -⟩ := Follows.mul_iff.mp follows
  obtain ⟨behind, isKey, -⟩ := Follows.mul_iff.mp front
  obtain ⟨after, -, isFront, -⟩ := Follows.of_token_mul isKey
  exact ⟨after, isFront⟩

end JsonForm

/-! ### The character in front -/

namespace Json

/-- The kinds of values. -/
inductive Kind where
  | null
  | bool (value : Bool)
  | number
  | string
  | array
  | object

/-- The kind of a value. -/
def kind : Json → Kind
  | .null => .null
  | .bool value => .bool value
  | .number _ => .number
  | .string _ => .string
  | .array _ => .array
  | .object _ => .object

/-- The kind of the values that start with a character. -/
def Kind.startingWith? (c : Char) : Option Kind :=
  if c.isDigit then some .number
  else
    match c with
    | 'n' => some .null
    | 't' => some (.bool true)
    | 'f' => some (.bool false)
    | '"' => some .string
    | '[' => some .array
    | '\x7b' => some .object
    | _ => none

variable {value other : Json} {text rest otherRest : List Char}

/-- The character in front of a form tells the kind of the value. -/
theorem kind_of_follows (follows : Follows value.forms text rest) :
    ∃ c after, text = c :: after ∧ Kind.startingWith? c = some value.kind := by
  cases value with
  | null => exact ⟨_, _, Follows.singleton_iff.mp follows, rfl⟩
  | bool value =>
    cases value with
    | true => exact ⟨_, _, Follows.singleton_iff.mp follows, rfl⟩
    | false => exact ⟨_, _, Follows.singleton_iff.mp follows, rfl⟩
  | number value =>
    obtain ⟨digits, ⟨someDigit, areDigits, -⟩, rfl⟩ := follows
    obtain ⟨c, others, rfl⟩ := List.exists_cons_of_ne_nil someDigit
    exact ⟨c, others ++ rest, rfl, if_pos (areDigits c List.mem_cons_self)⟩
  | string value =>
    obtain ⟨after, -, rfl, -⟩ := Follows.of_token_mul follows
    exact ⟨'"', after, rfl, rfl⟩
  | array items =>
    obtain ⟨after, rfl⟩ := JsonForm.opens_of_follows follows
    exact ⟨'[', after, rfl, rfl⟩
  | object fields =>
    obtain ⟨after, rfl⟩ := JsonForm.opens_of_follows follows
    exact ⟨'\x7b', after, rfl, rfl⟩

/-- Values with forms in front of one text are of one kind. -/
theorem kind_eq_of_follows (follows : Follows value.forms text rest)
    (otherFollows : Follows other.forms text otherRest) : value.kind = other.kind := by
  obtain ⟨c, after, rfl, starts⟩ := kind_of_follows follows
  obtain ⟨otherC, otherAfter, same, otherStarts⟩ := kind_of_follows otherFollows
  obtain ⟨rfl, -⟩ := List.cons.inj same
  exact Option.some.inj (starts.symm.trans otherStarts)

end Json

/-! ### Forms told apart -/

/-- A form of the value is a form of no other one, whatever comes behind it, unless that is a
digit. -/
def ToldApart {α : Type} (forms : α → Language Char) (value : α) : Prop :=
  ∀ ⦃other : α⦄ ⦃text rest otherRest : List Char⦄, Follows (forms value) text rest →
    Follows (forms other) text otherRest → StopsAt Char.isDigit rest →
    StopsAt Char.isDigit otherRest → value = other ∧ rest = otherRest

namespace JsonForm

/-- The text goes on neither with a blank nor with a digit. -/
def Breaks (text : List Char) : Prop :=
  StopsAt JsonFile.isBlank text ∧ StopsAt Char.isDigit text

/-- The character closes a list of pieces. -/
def IsClosing (c : Char) : Prop := c = ']' ∨ c = '\x7d'

theorem IsClosing.breaks {c : Char} (isClosing : IsClosing c) (rest : List Char) :
    Breaks (c :: rest) := by
  rcases isClosing with rfl | rfl <;> exact ⟨rfl, rfl⟩

/-- What comes behind a piece does not go on with a blank or a digit. -/
theorem breaks_of_follows_more {closing : Char} (isClosing : IsClosing closing)
    {pieces : List (Language Char)} {text rest : List Char}
    (follows : Follows (more closing pieces) text rest) : Breaks text := by
  cases pieces with
  | nil =>
    obtain rfl := Follows.singleton_iff.mp follows
    exact isClosing.breaks rest
  | cons piece pieces =>
    obtain ⟨_, _, rfl, _⟩ := Follows.of_token_mul follows
    exact ⟨rfl, rfl⟩

section Pieces

variable {α : Type} {forms : α → Language Char} {text rest otherRest : List Char}

/-- Each form starts with a character that starts a value. -/
def StartLikeValues (forms : α → Language Char) : Prop :=
  ∀ ⦃value : α⦄ ⦃text rest : List Char⦄, Follows (forms value) text rest →
    ∃ c after, text = c :: after ∧ (Json.Kind.startingWith? c).isSome = true

theorem not_blank_of_startsValue {c : Char}
    (starts : (Json.Kind.startingWith? c).isSome = true) : JsonFile.isBlank c = false := by
  by_contra isBlank
  simp only [Bool.not_eq_false, JsonFile.isBlank, Bool.or_eq_true, beq_iff_eq] at isBlank
  rcases isBlank with ((rfl | rfl) | rfl) | rfl <;> cases starts

variable (start : StartLikeValues forms)

include start

/-- Behind the blanks in front of a piece its form comes next. -/
theorem exists_follows_of_padded {value : α} (follows : Follows (padded (forms value)) text rest) :
    ∃ after, Follows (forms value) (JsonFile.skipBlanks text) after ∧ Follows blanks after rest := by
  obtain ⟨after, front, back⟩ := Follows.mul_iff.mp follows
  obtain ⟨form, isBlanks, isForm⟩ := Follows.mul_iff.mp front
  obtain ⟨c, behind, rfl, starts⟩ := start isForm
  rw [skipBlanks_of_follows isBlanks (not_blank_of_startsValue starts)]
  exact ⟨after, isForm, back⟩

/-- Pieces with blanks around them are told apart if they are without. -/
theorem toldApart_padded {value other : α} (told : ToldApart forms value)
    (follows : Follows (padded (forms value)) text rest)
    (otherFollows : Follows (padded (forms other)) text otherRest) (breaks : Breaks rest)
    (otherBreaks : Breaks otherRest) : value = other ∧ rest = otherRest := by
  obtain ⟨after, isForm, isBlanks⟩ := exists_follows_of_padded start follows
  obtain ⟨otherAfter, isOther, otherBlanks⟩ := exists_follows_of_padded start otherFollows
  obtain ⟨same, rfl⟩ := told isForm isOther (stopsAt_digit_of_follows isBlanks breaks.2)
    (stopsAt_digit_of_follows otherBlanks otherBreaks.2)
  refine ⟨same, ?_⟩
  rw [← skipBlanks_of_follows isBlanks breaks.1,
    ← skipBlanks_of_follows otherBlanks otherBreaks.1]

variable {closing : Char} (isClosing : IsClosing closing)

include isClosing

/-- Pieces up to a closing bracket are told apart if each one is. -/
theorem toldApart_more {values : List α} (told : ∀ value ∈ values, ToldApart forms value)
    {others : List α} (follows : Follows (more closing (values.map forms)) text rest)
    (otherFollows : Follows (more closing (others.map forms)) text otherRest) :
    values = others ∧ rest = otherRest := by
  have notComma : closing ≠ ',' := by rcases isClosing with rfl | rfl <;> decide
  induction values generalizing text others with
  | nil =>
    obtain rfl := Follows.singleton_iff.mp follows
    cases others with
    | nil => exact ⟨rfl, (List.cons.inj (Follows.singleton_iff.mp otherFollows)).2⟩
    | cons other others =>
      obtain ⟨_, _, isComma, _⟩ := Follows.of_token_mul otherFollows
      exact absurd (List.cons.inj isComma).1 notComma
  | cons value values step =>
    obtain ⟨toldFirst, toldRest⟩ := List.forall_mem_cons.mp told
    obtain ⟨front, after, rfl, isPiece, back⟩ := Follows.of_token_mul follows
    cases others with
    | nil =>
      have isComma := Follows.singleton_iff.mp otherFollows
      exact absurd (List.cons.inj isComma).1.symm notComma
    | cons other others =>
      obtain ⟨_, otherAfter, isFront, isOther, otherBack⟩ := Follows.of_token_mul otherFollows
      obtain ⟨-, rfl⟩ := List.cons.inj isFront
      obtain ⟨rfl, rfl⟩ := toldApart_padded start toldFirst isPiece isOther
        (breaks_of_follows_more isClosing back) (breaks_of_follows_more isClosing otherBack)
      obtain ⟨rfl, same⟩ := step toldRest back otherBack
      exact ⟨rfl, same⟩

omit isClosing in
/-- Where a piece comes next, no closing bracket does. -/
theorem not_follows_closing {value : α} {after : List Char}
    (isPiece : Follows (padded (forms value)) text after)
    (isEmpty : Follows blanks text (closing :: rest)) (isClosing : IsClosing closing) : False := by
  obtain ⟨_, isForm, _⟩ := exists_follows_of_padded start isPiece
  rw [skipBlanks_of_follows isEmpty (isClosing.breaks rest).1] at isForm
  obtain ⟨c, _, isFront, starts⟩ := start isForm
  rw [← (List.cons.inj isFront).1] at starts
  rcases isClosing with rfl | rfl <;> cases starts

/-- **Pieces in brackets are told apart if each one is.** -/
theorem toldApart_inBrackets {opening : Char} {values : List α}
    (told : ∀ value ∈ values, ToldApart forms value) {others : List α}
    (follows : Follows (inBrackets opening closing (values.map forms)) text rest)
    (otherFollows : Follows (inBrackets opening closing (others.map forms)) text otherRest) :
    values = others ∧ rest = otherRest := by
  cases values with
  | nil =>
    obtain ⟨front, _, rfl, isBlanks, isClosed⟩ := Follows.of_token_mul follows
    obtain rfl := Follows.singleton_iff.mp isClosed
    cases others with
    | nil =>
      obtain ⟨_, _, isFront, otherBlanks, otherClosed⟩ := Follows.of_token_mul otherFollows
      obtain ⟨-, rfl⟩ := List.cons.inj isFront
      obtain rfl := Follows.singleton_iff.mp otherClosed
      have skipped := skipBlanks_of_follows isBlanks (isClosing.breaks rest).1
      have otherSkipped := skipBlanks_of_follows otherBlanks (isClosing.breaks otherRest).1
      exact ⟨rfl, (List.cons.inj (skipped.symm.trans otherSkipped)).2⟩
    | cons other others =>
      obtain ⟨_, _, isFront, isPiece, _⟩ := Follows.of_token_mul otherFollows
      obtain ⟨-, rfl⟩ := List.cons.inj isFront
      exact (not_follows_closing start isPiece isBlanks isClosing).elim
  | cons value values =>
    obtain ⟨toldFirst, toldRest⟩ := List.forall_mem_cons.mp told
    obtain ⟨front, after, rfl, isPiece, back⟩ := Follows.of_token_mul follows
    cases others with
    | nil =>
      obtain ⟨_, _, isFront, isBlanks, isClosed⟩ := Follows.of_token_mul otherFollows
      obtain ⟨-, rfl⟩ := List.cons.inj isFront
      obtain rfl := Follows.singleton_iff.mp isClosed
      exact (not_follows_closing start isPiece isBlanks isClosing).elim
    | cons other others =>
      obtain ⟨_, otherAfter, isFront, isOther, otherBack⟩ := Follows.of_token_mul otherFollows
      obtain ⟨-, rfl⟩ := List.cons.inj isFront
      obtain ⟨rfl, rfl⟩ := toldApart_padded start toldFirst isPiece isOther
        (breaks_of_follows_more isClosing back) (breaks_of_follows_more isClosing otherBack)
      obtain ⟨rfl, same⟩ := toldApart_more start isClosing toldRest back otherBack
      exact ⟨rfl, same⟩

end Pieces

/-! ### Leaves -/

variable {text rest otherRest : List Char}

/-- The digits of a number are all digits in front of the text. -/
theorem toldApart_number (value : Nat) : ToldApart number value := by
  rintro other text rest otherRest ⟨digits, ⟨-, areDigits, -, isValue⟩, rfl⟩
    ⟨otherDigits, ⟨-, otherAreDigits, -, isOther⟩, same⟩ stops otherStops
  have sameDigits : digits = otherDigits := by
    rw [← stops.takeWhile_append areDigits, ← same, otherStops.takeWhile_append otherAreDigits]
  refine ⟨?_, ?_⟩
  · rw [← isValue, ← isOther, sameDigits]
  · rw [← stops.dropWhile_append areDigits, ← same, otherStops.dropWhile_append otherAreDigits]

/-- A string ends at its closing quote, and its characters are told. -/
theorem string_eq_of_follows {value other : String} (follows : Follows (string value) text rest)
    (otherFollows : Follows (string other) text otherRest) : value = other ∧ rest = otherRest := by
  obtain ⟨inside, rfl, isRead⟩ := readText_of_follows follows
  obtain ⟨otherInside, same, otherRead⟩ := readText_of_follows otherFollows
  obtain ⟨-, rfl⟩ := List.cons.inj same
  exact Prod.mk.inj (Except.ok.inj (isRead.symm.trans otherRead))

/-- A colon with blanks around it ends where a value starts. -/
theorem colon_of_follows {c : Char} (follows : Follows (padded {[':']}) text (c :: rest))
    (notBlank : JsonFile.isBlank c = false) :
    ∃ after, JsonFile.skipBlanks text = ':' :: after ∧ JsonFile.skipBlanks after = c :: rest := by
  obtain ⟨after, front, isBlanks⟩ := Follows.mul_iff.mp follows
  obtain ⟨colon, blanksFirst, isColon⟩ := Follows.mul_iff.mp front
  obtain rfl := Follows.singleton_iff.mp isColon
  exact ⟨after, skipBlanks_of_follows blanksFirst rfl, skipBlanks_of_follows isBlanks notBlank⟩

end JsonForm

/-! ### Values -/

namespace Json

open JsonForm

theorem forms_startLikeValues : StartLikeValues forms := by
  intro value text rest follows
  obtain ⟨c, after, isFront, starts⟩ := kind_of_follows follows
  exact ⟨c, after, isFront, by rw [starts, Option.isSome_some]⟩

theorem formsOfField_startLikeValues : StartLikeValues formsOfField := by
  intro field text rest follows
  obtain ⟨after, isFront⟩ := opens_of_follows_field follows
  exact ⟨'"', after, isFront, rfl⟩

/-- A field is its key, up to the quote that closes it, and its value behind the colon. -/
theorem toldApart_formsOfField {field : String × Json} (told : ToldApart forms field.2) :
    ToldApart formsOfField field := by
  intro other text rest otherRest follows otherFollows stops otherStops
  obtain ⟨behindColon, front, isValue⟩ := Follows.mul_iff.mp follows
  obtain ⟨behindKey, isKey, isColon⟩ := Follows.mul_iff.mp front
  obtain ⟨otherBehindColon, otherFront, otherIsValue⟩ := Follows.mul_iff.mp otherFollows
  obtain ⟨otherBehindKey, otherIsKey, otherIsColon⟩ := Follows.mul_iff.mp otherFront
  obtain ⟨sameKey, rfl⟩ := string_eq_of_follows isKey otherIsKey
  have sameBehind : behindColon = otherBehindColon := by
    obtain ⟨c, later, rfl, starts⟩ := forms_startLikeValues isValue
    obtain ⟨otherC, otherLater, rfl, otherStarts⟩ := forms_startLikeValues otherIsValue
    obtain ⟨after, skipped, ends⟩ := colon_of_follows isColon (not_blank_of_startsValue starts)
    obtain ⟨otherAfter, otherSkipped, otherEnds⟩ :=
      colon_of_follows otherIsColon (not_blank_of_startsValue otherStarts)
    obtain ⟨-, rfl⟩ := List.cons.inj (skipped.symm.trans otherSkipped)
    exact ends.symm.trans otherEnds
  subst sameBehind
  obtain ⟨sameValue, sameRest⟩ := told isValue otherIsValue stops otherStops
  exact ⟨Prod.ext sameKey sameValue, sameRest⟩

/-- **A form of a value is a form of no other one**, whatever comes behind it. -/
theorem toldApart_forms (value : Json) : ToldApart forms value := by
  induction value using inductOn with
  | null =>
    intro other text rest otherRest follows otherFollows _ _
    have sameKind := kind_eq_of_follows follows otherFollows
    cases other <;> cases sameKind
    exact ⟨rfl, Follows.singleton_unique follows otherFollows⟩
  | bool value =>
    intro other text rest otherRest follows otherFollows _ _
    have sameKind := kind_eq_of_follows follows otherFollows
    cases other <;> cases sameKind
    cases value with
    | true => exact ⟨rfl, Follows.singleton_unique follows otherFollows⟩
    | false => exact ⟨rfl, Follows.singleton_unique follows otherFollows⟩
  | number value =>
    intro other text rest otherRest follows otherFollows stops otherStops
    have sameKind := kind_eq_of_follows follows otherFollows
    cases other <;> cases sameKind
    obtain ⟨rfl, same⟩ := toldApart_number value follows otherFollows stops otherStops
    exact ⟨rfl, same⟩
  | string value =>
    intro other text rest otherRest follows otherFollows _ _
    have sameKind := kind_eq_of_follows follows otherFollows
    cases other <;> cases sameKind
    obtain ⟨rfl, same⟩ := string_eq_of_follows follows otherFollows
    exact ⟨rfl, same⟩
  | array items told =>
    intro other text rest otherRest follows otherFollows _ _
    have sameKind := kind_eq_of_follows follows otherFollows
    cases other <;> cases sameKind
    rw [forms, itemForms_eq_map] at follows otherFollows
    obtain ⟨rfl, same⟩ := toldApart_inBrackets forms_startLikeValues (.inl rfl) told follows
      otherFollows
    exact ⟨rfl, same⟩
  | object fields told =>
    intro other text rest otherRest follows otherFollows _ _
    have sameKind := kind_eq_of_follows follows otherFollows
    cases other <;> cases sameKind
    rw [forms, fieldForms_eq_map] at follows otherFollows
    obtain ⟨rfl, same⟩ := toldApart_inBrackets formsOfField_startLikeValues (.inr rfl)
      (fun field member => toldApart_formsOfField (told field member)) follows otherFollows
    exact ⟨rfl, same⟩

/-- **A text holds at most one value.** -/
theorem document_unique {value other : Json} {text : List Char} (holds : text ∈ value.document)
    (otherHolds : text ∈ other.document) : value = other := by
  have ends : Breaks [] := ⟨rfl, rfl⟩
  exact (toldApart_padded forms_startLikeValues (toldApart_forms value)
    (Follows.nil_iff.mpr holds) (Follows.nil_iff.mpr otherHolds) ends ends).1

end Json

end TagAudit
