/-
**The language of a glob.**

A glob stands for a language of byte strings, the product of the languages of its tokens, and
accepts exactly the byte strings of that language.

* `GlobToken.language` is what one token stands for, `Glob.language` what the whole glob does;
* `Marks.Tell` reads marks as a language: entry `i` tells whether it holds the first `i` bytes;
* `GlobToken.tell_advance`: reading one token multiplies what the marks tell by its language;
* `Glob.tell_foldl`: so does reading a list of tokens, with the product of their languages;
* `Glob.accepts_iff`: a glob accepts a byte string if and only if its language holds it.

The glob of two stars alone is the one exception: its token stands for leading directories, yet it
accepts everything.
-/

import Mathlib.Computability.Language
import TagAudit.Pattern.Glob

namespace TagAudit

/-- The texts of one element that passes the test. -/
def oneOf {α : Type} (takes : α → Bool) : Language α :=
  {text | ∃ one, text = [one] ∧ takes one = true}

theorem mem_oneOf {α : Type} {takes : α → Bool} {text : List α} :
    text ∈ oneOf takes ↔ ∃ one, text = [one] ∧ takes one = true :=
  Iff.rfl

/-- The texts of one given element. -/
theorem oneOf_beq {α : Type} [BEq α] [LawfulBEq α] (one : α) : oneOf (· == one) = {[one]} := by
  ext text
  rw [mem_oneOf]
  constructor
  · rintro ⟨other, rfl, same⟩
    rw [eq_of_beq same]
    rfl
  · rintro rfl
    exact ⟨one, rfl, beq_self_eq_true one⟩

theorem mem_top_language {α : Type} (text : List α) : text ∈ (⊤ : Language α) :=
  trivial

/-- Two texts in a row are the product of the languages of each. -/
theorem singleton_mul_singleton {α : Type} (front back : List α) :
    ({front} : Language α) * {back} = {front ++ back} := by
  rw [Language.mul_def]
  exact Set.image2_singleton

namespace GlobToken

/-- The byte strings a token stands for. -/
def language : GlobToken → Language UInt8
  | .literal c => {String.utf8EncodeChar c}
  | .any => oneOf fun _ => true
  | .run => ⊤
  | .charClass negated ranges => oneOf fun byte => ranges.any (·.takesByte byte) != negated
  | .leadingDirs => 1 + ⊤ * {[slash]}
  | .trailingDirs => {[slash]} * ⊤
  | .innerDirs => {[slash]} + {[slash]} * ⊤ * {[slash]}

end GlobToken

/-- The byte strings a list of tokens stands for. -/
def Glob.language (tokens : List GlobToken) : Language UInt8 :=
  (tokens.map GlobToken.language).prod

/-! ### Marks as a language -/

namespace Marks

/-- The marks tell of every prefix of the bytes whether it is in the language. -/
structure Tell (marks : Marks) (bytes : List UInt8) (read : Language UInt8) : Prop where
  length_eq : marks.length = bytes.length + 1
  getElem?_iff : ∀ i ≤ bytes.length, marks[i]? = some true ↔ bytes.take i ∈ read

variable {marks first second : Marks} {bytes : List UInt8} {read other : Language UInt8}

/-- The last mark speaks of all bytes. -/
theorem Tell.getLast?_iff (tell : Tell marks bytes read) :
    marks.getLast?.getD false = true ↔ bytes ∈ read := by
  have last := tell.getElem?_iff bytes.length (Nat.le_refl _)
  rw [List.take_length] at last
  rw [← last, List.getLast?_eq_getElem?, tell.length_eq, Nat.add_sub_cancel]
  cases marks[bytes.length]? <;> simp

/-- Before anything is read only the empty prefix is marked. -/
theorem tell_start (bytes : List UInt8) : Tell (true :: bytes.map fun _ => false) bytes 1 := by
  refine ⟨by simp, ?_⟩
  intro i within
  rw [Language.mem_one]
  cases i with
  | zero => simp
  | succ i =>
    have unmarked : (bytes.map fun _ => false)[i]? = some false := by
      rw [List.getElem?_map, List.getElem?_eq_getElem within]
      rfl
    have nonempty : bytes.take (i + 1) ≠ [] := List.ne_nil_of_length_pos (by simp; omega)
    rw [List.getElem?_cons_succ, unmarked]
    simp [nonempty]

/-- Two ways of reading tell of the union. -/
theorem Tell.either (tell : Tell first bytes read) (tell' : Tell second bytes other) :
    Tell (first.either second) bytes (read + other) := by
  refine ⟨by simp [Marks.either, tell.length_eq, tell'.length_eq], ?_⟩
  intro i within
  have one : i < first.length := by rw [tell.length_eq]; omega
  have two : i < second.length := by rw [tell'.length_eq]; omega
  rw [Language.mem_add, ← tell.getElem?_iff i within, ← tell'.getElem?_iff i within]
  simp [Marks.either, one, two]

/-- Reading one byte more. -/
theorem Tell.readByte (tell : Tell marks bytes read) (takes : UInt8 → Bool) :
    Tell (marks.readByte takes bytes) bytes (read * oneOf takes) := by
  refine ⟨by simp [Marks.readByte, tell.length_eq], ?_⟩
  intro i within
  rw [Language.mem_mul]
  cases i with
  | zero => simp [Marks.readByte, mem_oneOf]
  | succ i =>
    have marked : i < marks.length := by rw [tell.length_eq]; omega
    have front := tell.getElem?_iff i (Nat.le_of_succ_le within)
    rw [List.getElem?_eq_getElem marked, Option.some_inj] at front
    simp only [Marks.readByte, List.getElem?_cons_succ, List.getElem?_zipWith,
      List.getElem?_eq_getElem marked, List.getElem?_eq_getElem within, Option.some_inj,
      Bool.and_eq_true, front, ← List.take_append_getElem within]
    constructor
    · rintro ⟨isRead, taken⟩
      exact ⟨_, isRead, _, ⟨_, rfl, taken⟩, rfl⟩
    · rintro ⟨front, isRead, _, ⟨byte, rfl, taken⟩, equal⟩
      obtain ⟨rfl, same⟩ := List.append_inj' equal rfl
      obtain ⟨rfl, -⟩ := List.cons.inj same
      exact ⟨isRead, taken⟩

/-- A prefix is reached if it is as long as one that was marked, or longer. -/
theorem getElem?_reached (seen : Bool) (marks : Marks) (i : Nat) (within : i < marks.length) :
    (marks.reached seen)[i]? = some true ↔ seen = true ∨ ∃ j ≤ i, marks[j]? = some true := by
  induction marks generalizing seen i with
  | nil => simp at within
  | cons mark rest step =>
    cases i with
    | zero => simp [Marks.reached]
    | succ i =>
      rw [Marks.reached, List.getElem?_cons_succ, step _ i (Nat.lt_of_succ_lt_succ within),
        Bool.or_eq_true, or_assoc]
      refine or_congr Iff.rfl ?_
      constructor
      · rintro (marked | ⟨j, below, marked⟩)
        · exact ⟨0, Nat.zero_le _, by rw [marked]; rfl⟩
        · exact ⟨j + 1, Nat.succ_le_succ below, marked⟩
      · rintro ⟨j, below, marked⟩
        cases j with
        | zero => exact Or.inl (Option.some_inj.mp marked)
        | succ j => exact Or.inr ⟨j, Nat.le_of_succ_le_succ below, marked⟩

theorem length_reached (seen : Bool) (marks : Marks) :
    (marks.reached seen).length = marks.length := by
  induction marks generalizing seen with
  | nil => rfl
  | cons mark rest step => rw [Marks.reached, List.length_cons, step, List.length_cons]

/-- Reading any run of bytes. -/
theorem Tell.readRun (tell : Tell marks bytes read) :
    Tell (marks.reached false) bytes (read * ⊤) := by
  refine ⟨by rw [length_reached, tell.length_eq], ?_⟩
  intro i within
  rw [getElem?_reached _ _ _ (by rw [tell.length_eq]; omega), Language.mem_mul]
  constructor
  · rintro (seen | ⟨j, below, marked⟩)
    · cases seen
    · have isRead := (tell.getElem?_iff j (below.trans within)).mp marked
      have split := List.take_append_drop j (bytes.take i)
      rw [List.take_take, Nat.min_eq_left below] at split
      exact ⟨bytes.take j, isRead, (bytes.take i).drop j, mem_top_language _, split⟩
  · rintro ⟨front, isRead, back, -, equal⟩
    have below : front.length ≤ i := by
      have := congrArg List.length equal
      simp at this
      omega
    have isTake : bytes.take front.length = front := by
      rw [← Nat.min_eq_left below, ← List.take_take, ← equal, List.take_left']
      rfl
    exact Or.inr ⟨front.length, below,
      (tell.getElem?_iff _ (below.trans within)).mpr (by rw [isTake]; exact isRead)⟩

/-- Reading the bytes of a text one by one. -/
theorem Tell.readBytes (tell : Tell marks bytes read) (text : List UInt8) :
    Tell (text.foldl (fun marks byte => marks.readByte (· == byte) bytes) marks) bytes
      (read * {text}) := by
  induction text generalizing marks read with
  | nil =>
    have one : ({[]} : Language UInt8) = 1 := rfl
    rw [one, mul_one]
    exact tell
  | cons byte text step =>
    have first := step (tell.readByte (· == byte))
    rwa [oneOf_beq, mul_assoc, singleton_mul_singleton] at first

end Marks

/-! ### Tokens, one and all -/

/-- **Reading one token multiplies what the marks tell by the language of the token.** -/
theorem GlobToken.tell_advance {marks : Marks} {bytes : List UInt8} {read : Language UInt8}
    (tell : marks.Tell bytes read) (token : GlobToken) :
    Marks.Tell (token.advance bytes marks) bytes (read * token.language) := by
  cases token with
  | literal c => exact tell.readBytes _
  | any => exact tell.readByte _
  | run => exact tell.readRun
  | charClass negated ranges => exact tell.readByte _
  | leadingDirs =>
    have found := tell.either (tell.readRun.readByte (· == slash))
    rwa [oneOf_beq, mul_assoc, ← mul_one_add] at found
  | trailingDirs =>
    have found := (tell.readByte (· == slash)).readRun
    rwa [oneOf_beq, mul_assoc] at found
  | innerDirs =>
    have one := tell.readByte (· == slash)
    have found := one.either (one.readRun.readByte (· == slash))
    rwa [oneOf_beq, mul_assoc, mul_assoc, ← mul_add, ← mul_assoc] at found

namespace Glob

theorem language_cons (token : GlobToken) (tokens : List GlobToken) :
    language (token :: tokens) = token.language * language tokens :=
  List.prod_cons

/-- Reading tokens one after the other multiplies by the language of the whole list. -/
theorem tell_foldl {marks : Marks} {bytes : List UInt8} {read : Language UInt8}
    (tell : marks.Tell bytes read) (tokens : List GlobToken) :
    Marks.Tell (tokens.foldl (fun marks token => token.advance bytes marks) marks) bytes
      (read * language tokens) := by
  induction tokens generalizing marks read with
  | nil =>
    have one : language [] = 1 := rfl
    rw [one, mul_one]
    exact tell
  | cons token tokens step =>
    rw [language_cons, ← mul_assoc]
    exact step (token.tell_advance tell)

/-- **A glob accepts exactly the byte strings of its language**, and two stars alone accept all. -/
theorem accepts_iff (glob : Glob) (bytes : List UInt8) :
    glob.accepts bytes = true ↔ glob.tokens = [.leadingDirs] ∨ bytes ∈ language glob.tokens := by
  unfold accepts
  split
  next alone => simp [alone]
  next notAlone =>
    have tell := tell_foldl (Marks.tell_start bytes) glob.tokens
    rw [one_mul] at tell
    rw [tell.getLast?_iff]
    simp [notAlone]

end Glob

end TagAudit
