/-
**Shell globs.**

A shell glob is read as a list of items, said here apart from how a pattern is translated.

* `ShellItem.Reads` is the grammar: `*`, `?`, a class up to its closing bracket, and every other
  character, an unclosed bracket among them, as itself;
* `ShellItem.language` is what an item stands for, `ShellMatches` what the pattern matches: if no
  range of its classes runs backwards, the names of the product of its items;
* `ShellItem.exists_reads`, `ShellItem.Reads.unique`: every pattern is read in exactly one way;
* `splitClass?_eq_some_iff`: a class is found exactly where the grammar has one.
-/

import TagAudit.Proofs.ClassMembers
import TagAudit.Proofs.GlobLanguage

namespace TagAudit

/-! ### Shell globs -/

/-- An item of a shell glob. -/
inductive ShellItem where
  /-- A character that stands for itself. -/
  | literal (c : Char)
  /-- Any one character. -/
  | any
  /-- Any run of characters. -/
  | run
  /-- One character of a class; the members are what stands between its brackets. -/
  | charClass (members : List Char)
deriving Repr, DecidableEq

/-- A `!` in first position negates a class. -/
def IsNegated (members : List Char) : Prop := members.head? = some '!'

instance (members : List Char) : Decidable (IsNegated members) :=
  inferInstanceAs (Decidable (_ = _))

/-- The members of a class without the `!` that negates it. -/
def classBody (members : List Char) : List Char :=
  if IsNegated members then members.tail else members

/-- A text can stand between the brackets of a class: after a `!` there is a first member, and no
closing bracket after that one. -/
def IsClass (members : List Char) : Prop :=
  classBody members ≠ [] ∧ ']' ∉ (classBody members).tail

namespace ShellItem

/-- The reading of a shell glob as items. -/
inductive Reads : List Char → List ShellItem → Prop where
  | nil : Reads [] []
  | run {rest : List Char} {items : List ShellItem} (reads : Reads rest items) :
      Reads ('*' :: rest) (.run :: items)
  | any {rest : List Char} {items : List ShellItem} (reads : Reads rest items) :
      Reads ('?' :: rest) (.any :: items)
  | charClass {members after : List Char} {items : List ShellItem} (isClass : IsClass members)
      (reads : Reads after items) :
      Reads ('[' :: (members ++ ']' :: after)) (.charClass members :: items)
  | unclosed {rest : List Char} {items : List ShellItem}
      (noClass : ∀ members after, IsClass members → rest ≠ members ++ ']' :: after)
      (reads : Reads rest items) : Reads ('[' :: rest) (.literal '[' :: items)
  | literal {c : Char} {rest : List Char} {items : List ShellItem} (notRun : c ≠ '*')
      (notAny : c ≠ '?') (notClass : c ≠ '[') (reads : Reads rest items) :
      Reads (c :: rest) (.literal c :: items)

/-- No range of a class runs backwards. -/
def IsValid : ShellItem → Prop
  | .charClass members => ValidMembers (classBody members)
  | _ => True

instance : DecidablePred IsValid
  | .charClass members => inferInstanceAs (Decidable (ValidMembers (classBody members)))
  | .literal _ => isTrue trivial
  | .any => isTrue trivial
  | .run => isTrue trivial

/-- A class with a `^` in first position. -/
def OpensWithCaret : ShellItem → Prop
  | .charClass members => members.head? = some '^'
  | _ => False

/-- The texts an item stands for. -/
def language : ShellItem → Language Char
  | .literal c => {[c]}
  | .any => oneOf fun _ => true
  | .run => ⊤
  | .charClass members =>
    oneOf fun c => decide ((∃ item ∈ classItems (classBody members), item.Has c) ↔
      ¬ IsNegated members)

end ShellItem

/-- The shell glob matches the whole name. -/
def ShellMatches (pattern name : List Char) : Prop :=
  ∃ items, ShellItem.Reads pattern items ∧ (∀ item ∈ items, item.IsValid) ∧
    name ∈ (items.map ShellItem.language).prod

/-- No class of the shell glob opens with a `^`. -/
def CaretFree (pattern : List Char) : Prop :=
  ∀ items, ShellItem.Reads pattern items → ∀ item ∈ items, ¬ item.OpensWithCaret

/-! ### Where a class ends -/

theorem splitBracket?_eq_some_iff {text members after : List Char} :
    splitBracket? text = some (members, after) ↔
      text = members ++ ']' :: after ∧ ']' ∉ members := by
  induction text generalizing members with
  | nil => simp [splitBracket?]
  | cons c rest step =>
    rw [splitBracket?]
    by_cases closing : c = ']'
    · rw [if_pos closing]
      cases members with
      | nil => simp [closing]
      | cons d inner =>
        constructor
        · intro found
          simp at found
        · rintro ⟨equal, outside⟩
          obtain ⟨rfl, -⟩ := List.cons.inj equal
          simp [closing] at outside
    · rw [if_neg closing]
      cases members with
      | nil => simp [closing]
      | cons d inner =>
        have found := @step inner
        simp only [Option.map_eq_some_iff, Prod.mk.injEq, List.cons.injEq, Prod.exists]
        constructor
        · rintro ⟨inner', after', split, ⟨rfl, rfl⟩, rfl⟩
          obtain ⟨rfl, outside⟩ := found.mp split
          exact ⟨rfl, by simp [Ne.symm closing, outside]⟩
        · rintro ⟨equal, outside⟩
          obtain ⟨rfl, rfl⟩ := List.cons.inj equal
          exact ⟨inner, after, found.mpr ⟨rfl, fun isMember => outside (by simp [isMember])⟩,
            ⟨rfl, rfl⟩, rfl⟩

theorem isNegated_cons {c : Char} {body : List Char} : IsNegated (c :: body) ↔ c = '!' :=
  Option.some_inj

theorem classBody_negated (body : List Char) : classBody ('!' :: body) = body :=
  if_pos rfl

theorem classBody_of_not_negated {members : List Char} (notNegated : ¬ IsNegated members) :
    classBody members = members :=
  if_neg notNegated

theorem isClass_negated (body : List Char) :
    IsClass ('!' :: body) ↔ body ≠ [] ∧ ']' ∉ body.tail := by
  rw [IsClass, classBody_negated]

theorem isClass_of_not_negated {members : List Char} (notNegated : ¬ IsNegated members) :
    IsClass members ↔ members ≠ [] ∧ ']' ∉ members.tail := by
  rw [IsClass, classBody_of_not_negated notNegated]

theorem splitClass?_negated (c : Char) (rest : List Char) :
    splitClass? ('!' :: c :: rest) =
      (splitBracket? rest).map fun found => ('!' :: c :: found.1, found.2) := by
  by_cases closing : c = ']'
  · subst closing
    rfl
  · simp [splitClass?, splitBracket?, closing, Function.comp_def]

theorem splitClass?_of_ne {c : Char} (notNegation : c ≠ '!') (rest : List Char) :
    splitClass? (c :: rest) = (splitBracket? rest).map fun found => (c :: found.1, found.2) := by
  by_cases closing : c = ']'
  · subst closing
    rfl
  · simp [splitClass?, splitBracket?, closing, notNegation, Function.comp_def]

/-- A class is found exactly where one can stand. -/
theorem splitClass?_eq_some_iff {text members after : List Char} :
    splitClass? text = some (members, after) ↔
      IsClass members ∧ text = members ++ ']' :: after := by
  constructor
  · intro found
    rcases text with - | ⟨c, rest⟩
    · simp [splitClass?, splitBracket?] at found
    · by_cases negation : c = '!'
      · subst negation
        rcases rest with - | ⟨c, rest⟩
        · simp [splitClass?, splitBracket?] at found
        · rw [splitClass?_negated] at found
          obtain ⟨⟨inner, left⟩, split, equal⟩ := Option.map_eq_some_iff.mp found
          obtain ⟨rfl, outside⟩ := splitBracket?_eq_some_iff.mp split
          obtain ⟨rfl, rfl⟩ := Prod.mk.inj equal
          exact ⟨(isClass_negated _).mpr ⟨List.cons_ne_nil _ _, outside⟩, rfl⟩
      · rw [splitClass?_of_ne negation] at found
        obtain ⟨⟨inner, left⟩, split, equal⟩ := Option.map_eq_some_iff.mp found
        obtain ⟨rfl, outside⟩ := splitBracket?_eq_some_iff.mp split
        obtain ⟨rfl, rfl⟩ := Prod.mk.inj equal
        have notNegated : ¬ IsNegated (c :: inner) := mt isNegated_cons.mp negation
        exact ⟨(isClass_of_not_negated notNegated).mpr ⟨List.cons_ne_nil _ _, outside⟩, rfl⟩
  · rintro ⟨isClass, rfl⟩
    rcases members with - | ⟨c, body⟩
    · exact absurd rfl isClass.1
    · by_cases negation : c = '!'
      · subst negation
        obtain ⟨nonempty, outside⟩ := (isClass_negated body).mp isClass
        obtain ⟨c, inner, rfl⟩ := List.exists_cons_of_ne_nil nonempty
        rw [List.tail_cons] at outside
        rw [List.cons_append, List.cons_append, splitClass?_negated,
          splitBracket?_eq_some_iff.mpr ⟨rfl, outside⟩]
        rfl
      · have notNegated : ¬ IsNegated (c :: body) := mt isNegated_cons.mp negation
        obtain ⟨-, outside⟩ := (isClass_of_not_negated notNegated).mp isClass
        rw [List.tail_cons] at outside
        rw [List.cons_append, splitClass?_of_ne negation,
          splitBracket?_eq_some_iff.mpr ⟨rfl, outside⟩]
        rfl

/-- A text starts with at most one class. -/
theorem IsClass.unique {members members' after after' : List Char} (isClass : IsClass members)
    (isClass' : IsClass members') (same : members ++ ']' :: after = members' ++ ']' :: after') :
    members = members' ∧ after = after' := by
  have found : splitClass? (members ++ ']' :: after) = some (members, after) :=
    splitClass?_eq_some_iff.mpr ⟨isClass, rfl⟩
  have found' := splitClass?_eq_some_iff.mpr ⟨isClass', same⟩
  exact Prod.mk.inj (Option.some_inj.mp (found.symm.trans found'))

theorem splitClass?_eq_none_iff {text : List Char} :
    splitClass? text = none ↔
      ∀ members after, IsClass members → text ≠ members ++ ']' :: after := by
  rw [Option.eq_none_iff_forall_ne_some, Prod.forall]
  refine forall₂_congr fun members after => ?_
  rw [Ne, splitClass?_eq_some_iff, not_and]

namespace ShellItem

/-! ### Every pattern is read in one way -/

/-- Every pattern can be read. -/
theorem exists_reads (pattern : List Char) : ∃ items, Reads pattern items := by
  induction pattern using shellToGlob.induct with
  | case1 => exact ⟨[], .nil⟩
  | case2 rest members after found _ step =>
    obtain ⟨items, reads⟩ := step
    obtain ⟨isClass, rfl⟩ := splitClass?_eq_some_iff.mp found
    exact ⟨_, .charClass isClass reads⟩
  | case3 rest found step =>
    obtain ⟨items, reads⟩ := step
    exact ⟨_, .unclosed (splitClass?_eq_none_iff.mp found) reads⟩
  | case4 rest step =>
    obtain ⟨items, reads⟩ := step
    exact ⟨_, .literal (by decide) (by decide) (by decide) reads⟩
  | case5 rest step =>
    obtain ⟨items, reads⟩ := step
    exact ⟨_, .literal (by decide) (by decide) (by decide) reads⟩
  | case6 c rest notClass _ _ step =>
    obtain ⟨items, reads⟩ := step
    by_cases isRun : c = '*'
    · subst isRun
      exact ⟨_, .run reads⟩
    · by_cases isAny : c = '?'
      · subst isAny
        exact ⟨_, .any reads⟩
      · exact ⟨_, .literal isRun isAny notClass reads⟩

/-- Two readings of one pattern are the same. -/
theorem Reads.unique {pattern : List Char} {items others : List ShellItem}
    (reads : Reads pattern items) (reads' : Reads pattern others) : items = others := by
  induction reads generalizing others with
  | nil =>
    cases reads'
    rfl
  | run reads step =>
    cases reads' with
    | run reads' => rw [step reads']
    | literal notRun => exact absurd rfl notRun
  | any reads step =>
    cases reads' with
    | any reads' => rw [step reads']
    | literal _ notAny => exact absurd rfl notAny
  | @charClass members after items isClass reads step =>
    generalize same : members ++ ']' :: after = text at reads'
    cases reads' with
    | charClass isClass' reads' =>
      obtain ⟨rfl, rfl⟩ := isClass.unique isClass' same
      rw [step reads']
    | unclosed noClass => exact absurd same.symm (noClass members after isClass)
    | literal _ _ notClass => exact absurd rfl notClass
  | unclosed noClass reads step =>
    cases reads' with
    | charClass isClass => exact absurd rfl (noClass _ _ isClass)
    | unclosed _ reads' => rw [step reads']
    | literal _ _ notClass => exact absurd rfl notClass
  | literal notRun notAny notClass reads step =>
    cases reads' with
    | literal _ _ _ reads' => rw [step reads']
    | run => exact absurd rfl notRun
    | any => exact absurd rfl notAny
    | charClass => exact absurd rfl notClass
    | unclosed => exact absurd rfl notClass

end ShellItem

end TagAudit
