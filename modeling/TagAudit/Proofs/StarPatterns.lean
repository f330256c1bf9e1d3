/-
**Patterns with stars.**

A pattern of stars and characters that stand for themselves selects the names that have its pieces
in order, with any text in place of each star. Names are matched byte by byte, but the pieces stand
only between whole characters, so this holds of the characters of any name.

* `FillsStars` is a text with something in place of each star of a pattern;
* `exists_fillsStars`: whatever bytes the stars take, the rest of the pattern is filled by a rest of
  the name;
* `textBytes_mem_wildcardBytes_iff`: the bytes of a name are taken if and only if the name fills the
  stars;
* `fillsStars_oneStar`: stars in a row mean the same as one;
* `NamePattern.selects_iff_fillsStars`: which names a pattern with stars selects.
-/

import TagAudit.Proofs.CharacterBytes
import TagAudit.Proofs.Pieces
import TagAudit.Proofs.Wildcards

namespace TagAudit

/-- The text has the pieces of the pattern between its stars in order, and some run of characters in
place of each star. -/
def FillsStars (pattern text : List Char) : Prop :=
  ∃ first others runs, pieces '*' pattern = first :: others ∧ runs.length = others.length ∧
    text = first ++ (List.zipWith (· ++ ·) runs others).flatten

/-- The pattern with one star in place of each run of stars. -/
def oneStar : List Char → List Char
  | [] => []
  | c :: rest => if c = '*' ∧ rest.head? = some '*' then oneStar rest else c :: oneStar rest

/-! ### Texts that fill the stars -/

section Fills

variable {rest text : List Char}

theorem fillsStars_nil : FillsStars [] text ↔ text = [] := by
  constructor
  · rintro ⟨first, others, runs, split, sameLength, rfl⟩
    obtain ⟨rfl, rfl⟩ := List.cons.inj split
    simp [List.length_eq_zero_iff.mp sameLength]
  · rintro rfl
    exact ⟨[], [], [], rfl, rfl, rfl⟩

theorem fillsStars_star :
    FillsStars ('*' :: rest) text ↔ ∃ run back, text = run ++ back ∧ FillsStars rest back := by
  constructor
  · rintro ⟨first, others, runs, split, sameLength, rfl⟩
    rw [pieces_separator] at split
    obtain ⟨rfl, isRest⟩ := List.cons.inj split
    obtain ⟨second, others, rfl⟩ := List.exists_cons_of_ne_nil (isRest ▸ pieces_ne_nil '*' rest)
    obtain ⟨run, runs, rfl⟩ := List.exists_cons_of_length_eq_add_one sameLength
    refine ⟨run, _, ?_, second, others, runs, isRest, Nat.succ.inj sameLength, rfl⟩
    simp
  · rintro ⟨run, back, rfl, first, others, runs, split, sameLength, rfl⟩
    refine ⟨[], first :: others, run :: runs, ?_, congrArg Nat.succ sameLength, ?_⟩
    · rw [pieces_separator, split]
    · simp

theorem fillsStars_literal {c : Char} (notStar : c ≠ '*') :
    FillsStars (c :: rest) text ↔ ∃ back, text = c :: back ∧ FillsStars rest back := by
  obtain ⟨first, others, split⟩ := List.exists_cons_of_ne_nil (pieces_ne_nil '*' rest)
  constructor
  · rintro ⟨first', others', runs, split', sameLength, rfl⟩
    rw [pieces_character notStar split] at split'
    obtain ⟨rfl, rfl⟩ := List.cons.inj split'
    exact ⟨_, List.cons_append, first, others, runs, split, sameLength, rfl⟩
  · rintro ⟨back, rfl, first', others', runs, split', sameLength, rfl⟩
    exact ⟨c :: first', others', runs, pieces_character notStar split', sameLength,
      List.cons_append.symm⟩

/-- A star behind a star takes nothing more. -/
theorem fillsStars_twoStars :
    FillsStars ('*' :: '*' :: rest) text ↔ FillsStars ('*' :: rest) text := by
  rw [fillsStars_star]
  constructor
  · rintro ⟨run, back, rfl, fills⟩
    obtain ⟨run', back', rfl, restFills⟩ := fillsStars_star.mp fills
    exact fillsStars_star.mpr ⟨run ++ run', back', (List.append_assoc _ _ _).symm, restFills⟩
  · intro fills
    exact ⟨[], text, rfl, fills⟩

/-- **Stars in a row mean the same as one star.** -/
theorem fillsStars_oneStar (pattern : List Char) :
    FillsStars (oneStar pattern) text ↔ FillsStars pattern text := by
  induction pattern generalizing text with
  | nil => exact Iff.rfl
  | cons c rest step =>
    rw [oneStar]
    split
    next inRow =>
      obtain ⟨rfl, another⟩ := inRow
      obtain ⟨rest, rfl⟩ := List.head?_eq_some_iff.mp another
      rw [fillsStars_twoStars, step]
    next =>
      by_cases isStar : c = '*'
      · subst isStar
        simp only [fillsStars_star, step]
      · simp only [fillsStars_literal isStar, step]

theorem mem_oneStar_iff {c : Char} {pattern : List Char} : c ∈ oneStar pattern ↔ c ∈ pattern := by
  induction pattern with
  | nil => exact Iff.rfl
  | cons d rest step =>
    rw [oneStar]
    split
    next inRow =>
      obtain ⟨rfl, another⟩ := inRow
      rw [step, List.mem_cons, or_iff_right_of_imp]
      rintro rfl
      exact List.mem_of_head? another
    next => rw [List.mem_cons, List.mem_cons, step]

end Fills

/-! ### From bytes to characters -/

section Bytes

variable {pattern : List Char} (noQuestion : '?' ∉ pattern)

include noQuestion

/-- **What is behind some bytes of a name fills the stars as characters**, if the pattern takes it as
bytes. The pattern may begin with a star, so what it takes need not begin with a whole character; the
star takes the rest of that character then, and what it fills begins behind. -/
theorem exists_fillsStars {name : List Char} {front back : List UInt8}
    (same : textBytes name = front ++ back) (taken : back ∈ wildcardBytes pattern) :
    ∃ before after, name = before ++ after ∧ FillsStars pattern after ∧
      (front = [] → before = []) := by
  induction pattern generalizing name front back with
  | nil =>
    obtain rfl := mem_wildcardBytes_nil.mp taken
    refine ⟨name, [], (List.append_nil _).symm, fillsStars_nil.mpr rfl, ?_⟩
    rintro rfl
    exact textBytes_eq_nil_iff.mp same
  | cons c rest step =>
    have restNoQuestion := List.not_mem_of_not_mem_cons noQuestion
    by_cases isStar : c = '*'
    · subst isStar
      obtain ⟨run, behind, rfl, isTaken⟩ := mem_wildcardBytes_star.mp taken
      rw [← List.append_assoc] at same
      obtain ⟨before, after, rfl, fills, -⟩ := step restNoQuestion same isTaken
      exact ⟨[], _, rfl, fillsStars_star.mpr ⟨before, after, rfl, fills⟩, fun _ => rfl⟩
    · have notAny := Ne.symm (List.ne_of_not_mem_cons noQuestion)
      obtain ⟨behind, rfl, isTaken⟩ := (mem_wildcardBytes_literal isStar notAny).mp taken
      obtain ⟨before, rest', rfl, isFront, isRest⟩ :=
        exists_split_of_textBytes same (startsCharacter_utf8EncodeChar c behind)
      obtain ⟨after, rfl, isBehind⟩ := exists_cons_of_textBytes isRest
      have fromStart : textBytes after = [] ++ behind := isBehind
      obtain ⟨skipped, after', rfl, fills, nothing⟩ := step restNoQuestion fromStart isTaken
      obtain rfl := nothing rfl
      refine ⟨before, _, rfl, (fillsStars_literal isStar).mpr ⟨_, rfl, fills⟩, ?_⟩
      rintro rfl
      exact textBytes_eq_nil_iff.mp isFront

theorem textBytes_mem_wildcardBytes_of_fillsStars {name : List Char}
    (fills : FillsStars pattern name) : textBytes name ∈ wildcardBytes pattern := by
  induction pattern generalizing name with
  | nil =>
    obtain rfl := fillsStars_nil.mp fills
    exact mem_wildcardBytes_nil.mpr rfl
  | cons c rest step =>
    have restNoQuestion := List.not_mem_of_not_mem_cons noQuestion
    by_cases isStar : c = '*'
    · subst isStar
      obtain ⟨run, back, rfl, restFills⟩ := fillsStars_star.mp fills
      exact mem_wildcardBytes_star.mpr
        ⟨textBytes run, textBytes back, textBytes_append run back, step restNoQuestion restFills⟩
    · have notAny := Ne.symm (List.ne_of_not_mem_cons noQuestion)
      obtain ⟨back, rfl, restFills⟩ := (fillsStars_literal isStar).mp fills
      exact (mem_wildcardBytes_literal isStar notAny).mpr
        ⟨textBytes back, textBytes_cons c back, step restNoQuestion restFills⟩

/-- **The bytes of a name are taken if and only if the name fills the stars.** -/
theorem textBytes_mem_wildcardBytes_iff {name : List Char} :
    textBytes name ∈ wildcardBytes pattern ↔ FillsStars pattern name := by
  constructor
  · intro taken
    have fromStart : textBytes name = [] ++ textBytes name := rfl
    obtain ⟨before, after, rfl, fills, nothing⟩ := exists_fillsStars noQuestion fromStart taken
    obtain rfl := nothing rfl
    exact fills
  · exact textBytes_mem_wildcardBytes_of_fillsStars noQuestion

end Bytes

/-! ### Selecting names -/

/-- The glob of a pattern with stars accepts the names that fill the stars. -/
theorem NamePattern.accepts_iff_fillsStars {pattern : List Char} (star : '*' ∈ pattern)
    (plain : ∀ c ∈ pattern, c ≠ '?' ∧ c ≠ '[' ∧ c ≠ '/') (name : List Char) :
    (ofText (String.ofList pattern)).glob.any (·.accepts (textBytes name)) = true ↔
      FillsStars pattern name := by
  have noQuestion : '?' ∉ pattern := fun inside => (plain _ inside).1 rfl
  have noClass : '[' ∉ (String.ofList pattern).toList := by
    rw [String.toList_ofList]
    exact fun inside => (plain _ inside).2.1 rfl
  have noSlash : '/' ∉ (String.ofList pattern).toList := by
    rw [String.toList_ofList]
    exact fun inside => (plain _ inside).2.2 rfl
  rw [accepts_iff_wildcardBytes noClass noSlash, String.toList_ofList,
    textBytes_mem_wildcardBytes_iff noQuestion]
  exact and_iff_right (.inl star)

/-- **A pattern of stars and characters that stand for themselves selects** the names that start with
it and the names that have its pieces in order, with any characters in place of each star. The bytes
of a piece stand among the bytes of a name only where the piece stands among its characters, and
stars in a row mean the same as one star. -/
theorem NamePattern.selects_iff_fillsStars (pattern name : String) (star : '*' ∈ pattern.toList)
    (plain : ∀ c ∈ pattern.toList, c ≠ '?' ∧ c ≠ '[' ∧ c ≠ '/') :
    ((ofText pattern).selects name = true ↔
      pattern.toList <+: name.toList ∨ FillsStars pattern.toList name.toList) ∧
    (∀ piece ∈ pieces '*' pattern.toList, piece ≠ [] → ∀ front back,
      textBytes name.toList = front ++ (textBytes piece ++ back) →
      ∃ before after, name.toList = before ++ (piece ++ after) ∧ textBytes before = front ∧
        textBytes after = back) ∧
    (ofText (String.ofList (oneStar pattern.toList))).glob.any
        (·.accepts (textBytes name.toList)) =
      (ofText pattern).glob.any (·.accepts (textBytes name.toList)) := by
  have accepts := accepts_iff_fillsStars star plain name.toList
  rw [String.ofList_toList] at accepts
  refine ⟨?_, fun piece _ notEmpty front back same => ?_, ?_⟩
  · rw [selects, Bool.or_eq_true, List.isPrefixOf_iff_prefix, ← accepts]
    exact Iff.rfl
  · exact exists_between_of_textBytes notEmpty same
  · have plainOnce : ∀ c ∈ oneStar pattern.toList, c ≠ '?' ∧ c ≠ '[' ∧ c ≠ '/' :=
      fun c inside => plain c (mem_oneStar_iff.mp inside)
    rw [Bool.eq_iff_iff, accepts, accepts_iff_fillsStars (mem_oneStar_iff.mpr star) plainOnce,
      fillsStars_oneStar]

/-- Stars in a row, a brace and characters of two and four bytes. -/
theorem NamePattern.selects_iff_fillsStars_accented :
    '*' ∈ "***é\x7b*😀".toList ∧
      (∀ c ∈ "***é\x7b*😀".toList, c ≠ '?' ∧ c ≠ '[' ∧ c ≠ '/') ∧
      ((ofText "***é\x7b*😀").selects "añé\x7b日😀" = true ↔
        "***é\x7b*😀".toList <+: "añé\x7b日😀".toList ∨
          FillsStars "***é\x7b*😀".toList "añé\x7b日😀".toList) ∧
      FillsStars "***é\x7b*😀".toList "añé\x7b日😀".toList := by
  have star : '*' ∈ "***é\x7b*😀".toList := by decide
  have plain : ∀ c ∈ "***é\x7b*😀".toList, c ≠ '?' ∧ c ≠ '[' ∧ c ≠ '/' := by simp
  obtain ⟨selected, -, -⟩ := selects_iff_fillsStars _ "añé\x7b日😀" star plain
  exact ⟨star, plain, selected, [], [[], [], ['é', '\x7b'], ['😀']],
    [['a'], [], ['ñ'], ['日']], by decide, rfl, by decide⟩

end TagAudit
