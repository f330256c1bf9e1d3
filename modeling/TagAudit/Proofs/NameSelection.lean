/-
**Name patterns select by shell glob.**

A pattern is translated, read as a glob and matched byte by byte. On ASCII names that comes to the
shell glob of `ShellMatches`.

* `readTokens?_run`: without slashes a star always reads as a run, two stars alone apart;
* `ShellItem.Reads.shellToGlob_eq`: the translated pattern is the text of its items;
* `ShellItem.readTokens?_flatMap_written`: that text is read as the tokens of the items, and fails
  exactly if an item is not valid;
* `ShellItem.Reads.accepts_iff`: the translated pattern accepts the bytes that the tokens take;
* `ShellItem.map_mem_language_iff`: on ASCII the tokens take the bytes of what the items take;
* `NamePattern.selects_iff_shellMatches`: a pattern selects a name if and only if the name starts
  with it or the shell glob matches it.

Slashes and classes that open with a `^` are left out: stars next to slashes and carets after an
opening bracket have a meaning of their own in a glob.
-/

import TagAudit.Proofs.ShellGlob

namespace TagAudit

/-! ### Reading tokens one by one -/

section Tokens

variable (tokens : List GlobToken) (before : Option Char) (rest : List Char)

theorem readTokens?_any :
    readTokens? tokens before ('?' :: rest) = readTokens? (.any :: tokens) (some '?') rest := by
  rw [readTokens?]

theorem readTokens?_literal {c : Char} (notRun : c ≠ '*') (notAny : c ≠ '?')
    (notClass : c ≠ '[') :
    readTokens? tokens before (c :: rest) = readTokens? (.literal c :: tokens) (some c) rest := by
  rw [readTokens?]
  · exact notAny
  · intro rest' same
    exact fun _ => notRun same
  · exact notRun
  · exact notClass

theorem readTokens?_star (single : rest.head? ≠ some '*') :
    readTokens? tokens before ('*' :: rest) = readTokens? (.run :: tokens) (some '*') rest := by
  rw [readTokens?]
  rintro rest' rfl
  exact single rfl

theorem readTokens?_charClass :
    readTokens? tokens before ('[' :: rest) = (readClass? rest).bind fun (token, after) =>
      readTokens? (token :: tokens) (some ']') after := by
  rw [readTokens?]
  split
  next unread => simp only [unread, Option.bind_none]
  next token after read => simp only [read, Option.bind_some]

end Tokens

/-- Two stars that are not alone and not next to a slash read as two runs. -/
theorem readDoubleStar_eq {tokens : List GlobToken} {before : Option Char} {rest : List Char}
    (notAfter : before ≠ some '/') (notBefore : rest.head? ≠ some '/')
    (notAlone : tokens = [] → rest ≠ []) :
    readDoubleStar tokens before rest = (.run :: .run :: tokens, rest) := by
  unfold readDoubleStar
  split
  next none =>
    have nonempty := notAlone (List.isEmpty_iff.mp none)
    split
    · exact absurd rfl nonempty
    · exact absurd rfl notBefore
    · rfl
  next =>
    rw [if_pos (bne_iff_ne.mpr notAfter)]
    rfl

/-- A star reads as a run if no slash is near and it is not one of two stars alone. -/
theorem readTokens?_run {tokens : List GlobToken} {before : Option Char} {rest : List Char}
    (notAfter : before ≠ some '/') (noSlash : '/' ∉ rest) (notAlone : tokens = [] → rest ≠ ['*']) :
    readTokens? tokens before ('*' :: rest) = readTokens? (.run :: tokens) (some '*') rest := by
  induction rest generalizing tokens before with
  | nil => exact readTokens?_star _ _ _ (by simp)
  | cons c rest step =>
    have noSlashAfter : '/' ∉ rest := fun slash => noSlash (List.mem_cons_of_mem _ slash)
    by_cases star : c = '*'
    · -- Two stars are read at once; the second one alone is a star after one run more.
      subst star
      have notBefore : rest.head? ≠ some '/' := fun slash =>
        noSlashAfter (List.mem_of_head? slash)
      have nonempty : tokens = [] → rest ≠ [] := by
        rintro first rfl
        exact notAlone first rfl
      have second := @step (.run :: tokens) (some '*') (by decide) noSlashAfter (by simp)
      rw [second, readTokens?, readDoubleStar_eq notAfter notBefore nonempty]
      rw [if_neg (Nat.lt_irrefl _)]
    · exact readTokens?_star _ _ _ (by simpa using star)

/-- A class without a `^` in front reads as its items, and fails exactly if a range runs
backwards. -/
theorem readClass?_eq {members : List Char} (isClass : IsClass members)
    (noCaret : members.head? ≠ some '^') (after : List Char) :
    readClass? (members ++ ']' :: after) =
      if ValidMembers (classBody members) then
        some (.charClass (decide (IsNegated members))
          ((classItems (classBody members)).map ClassItem.range), after)
      else none := by
  have found := readMembers?_eq (classBody members) after isClass.1 isClass.2
  rcases members with - | ⟨c, body⟩
  · exact absurd rfl isClass.1
  · by_cases negation : c = '!'
    · subst negation
      rw [classBody_negated] at found ⊢
      rw [List.cons_append, readClass?, found]
      split <;> rfl
    · have notNegated : ¬ IsNegated (c :: body) := mt isNegated_cons.mp negation
      have notCaret : c ≠ '^' := fun same => noCaret (congrArg some same)
      rw [classBody_of_not_negated notNegated] at found ⊢
      rw [List.cons_append, readClass?, ← List.cons_append, found, decide_eq_false notNegated]
      · split <;> rfl
      · intro rest same
        exact negation (List.cons.inj same).1
      · intro rest same
        exact notCaret (List.cons.inj same).1

/-! ### The translation of a pattern -/

theorem shellToGlob_of_class {rest members after : List Char}
    (found : splitClass? rest = some (members, after)) :
    shellToGlob ('[' :: rest) = writeClass members ++ shellToGlob after := by
  rw [shellToGlob]
  split
  next members' after' found' =>
    obtain ⟨rfl, rfl⟩ := Prod.mk.inj (Option.some_inj.mp (found.symm.trans found'))
    rfl
  next unfound => rw [found] at unfound; cases unfound

theorem shellToGlob_of_unclosed {rest : List Char} (unclosed : splitClass? rest = none) :
    shellToGlob ('[' :: rest) = '[' :: '[' :: ']' :: shellToGlob rest := by
  rw [shellToGlob]
  split
  next found => rw [unclosed] at found; cases found
  next => rfl

/-- A class without a `^` in front is written as it stands. -/
theorem writeClass_eq {members : List Char} (noCaret : members.head? ≠ some '^') :
    writeClass members = '[' :: members ++ [']'] := by
  unfold writeClass
  split
  · exact absurd rfl noCaret
  · exact absurd rfl noCaret
  · rfl

namespace ShellItem

/-- The characters that are written as a class of their own. -/
def IsQuoted (c : Char) : Prop := c = '[' ∨ c = '\x7b' ∨ c = '\x7d'

instance (c : Char) : Decidable (IsQuoted c) := inferInstanceAs (Decidable (_ ∨ _ ∨ _))

/-- The text of an item in a glob. -/
def written : ShellItem → List Char
  | .literal c => if IsQuoted c then ['[', c, ']'] else [c]
  | .any => ['?']
  | .run => ['*']
  | .charClass members => '[' :: (members ++ [']'])

/-- The token of an item in a glob. -/
def token : ShellItem → GlobToken
  | .literal c => if IsQuoted c then .charClass false [⟨c, c⟩] else .literal c
  | .any => .any
  | .run => .run
  | .charClass members =>
    .charClass (decide (IsNegated members)) ((classItems (classBody members)).map ClassItem.range)

/-- The item keeps its meaning in a glob: it is read as itself and brings in no slash. -/
def IsFaithful : ShellItem → Prop
  | .literal c => c ≠ '*' ∧ c ≠ '?' ∧ c ≠ '/'
  | .charClass members => IsClass members ∧ members.head? ≠ some '^' ∧ '/' ∉ members
  | _ => True

variable {pattern : List Char} {items : List ShellItem}

/-- Without slashes and carets every item is faithful. -/
theorem Reads.isFaithful (reads : Reads pattern items) (noSlash : '/' ∉ pattern)
    (noCaret : ∀ item ∈ items, ¬ item.OpensWithCaret) : ∀ item ∈ items, item.IsFaithful := by
  induction reads with
  | nil => exact fun _ isItem => nomatch isItem
  | run reads step =>
    have rest := step (List.not_mem_of_not_mem_cons noSlash) (List.forall_mem_cons.mp noCaret).2
    exact List.forall_mem_cons.mpr ⟨trivial, rest⟩
  | any reads step =>
    have rest := step (List.not_mem_of_not_mem_cons noSlash) (List.forall_mem_cons.mp noCaret).2
    exact List.forall_mem_cons.mpr ⟨trivial, rest⟩
  | charClass isClass reads step =>
    obtain ⟨notCaret, noCaret⟩ := List.forall_mem_cons.mp noCaret
    simp only [List.mem_cons, List.mem_append, not_or] at noSlash
    obtain ⟨-, outside, -, noSlash⟩ := noSlash
    exact List.forall_mem_cons.mpr ⟨⟨isClass, notCaret, outside⟩, step noSlash noCaret⟩
  | unclosed noClass reads step =>
    have rest := step (List.not_mem_of_not_mem_cons noSlash) (List.forall_mem_cons.mp noCaret).2
    exact List.forall_mem_cons.mpr ⟨⟨by decide, by decide, by decide⟩, rest⟩
  | literal notRun notAny notClass reads step =>
    have rest := step (List.not_mem_of_not_mem_cons noSlash) (List.forall_mem_cons.mp noCaret).2
    have notSlash := Ne.symm (List.ne_of_not_mem_cons noSlash)
    exact List.forall_mem_cons.mpr ⟨⟨notRun, notAny, notSlash⟩, rest⟩

/-- The translated pattern is the text of its items. -/
theorem Reads.shellToGlob_eq (reads : Reads pattern items)
    (faithful : ∀ item ∈ items, item.IsFaithful) :
    shellToGlob pattern = items.flatMap written := by
  induction reads with
  | nil =>
    rw [shellToGlob]
    rfl
  | run reads step =>
    rw [shellToGlob, step (List.forall_mem_cons.mp faithful).2]
    · rfl
    all_goals decide
  | any reads step =>
    rw [shellToGlob, step (List.forall_mem_cons.mp faithful).2]
    · rfl
    all_goals decide
  | @charClass members after items isClass reads step =>
    obtain ⟨⟨-, noCaret, -⟩, faithful⟩ := List.forall_mem_cons.mp faithful
    have found : splitClass? (members ++ ']' :: after) = some (members, after) :=
      splitClass?_eq_some_iff.mpr ⟨isClass, rfl⟩
    rw [shellToGlob_of_class found, writeClass_eq noCaret, step faithful]
    rfl
  | unclosed noClass reads step =>
    rw [shellToGlob_of_unclosed (splitClass?_eq_none_iff.mpr noClass),
      step (List.forall_mem_cons.mp faithful).2]
    rfl
  | @literal c rest items notRun notAny notClass reads step =>
    rw [List.flatMap_cons, ← step (List.forall_mem_cons.mp faithful).2, written]
    by_cases openBrace : c = '\x7b'
    · subst openBrace
      rw [shellToGlob]
      rfl
    · by_cases closeBrace : c = '\x7d'
      · subst closeBrace
        rw [shellToGlob]
        rfl
      · rw [shellToGlob, if_neg (by simp [IsQuoted, notClass, openBrace, closeBrace])]
        · rfl
        · exact notClass
        · exact openBrace
        · exact closeBrace

/-! ### Reading the translated pattern -/

variable {item : ShellItem} {tokens : List GlobToken} {before : Option Char}

/-- A character in a class of its own reads as that class. -/
theorem readClass?_quoted {c : Char} (quoted : IsQuoted c) (text : List Char) :
    readClass? (c :: ']' :: text) = some (.charClass false [⟨c, c⟩], text) := by
  rcases quoted with rfl | rfl | rfl <;> rfl

/-- **Reading one item**: its token is added, unless the item is not valid. -/
theorem IsFaithful.readTokens?_written (faithful : item.IsFaithful) (notAfter : before ≠ some '/')
    {text : List Char} (noSlash : '/' ∉ text)
    (notAlone : item = .run → tokens = [] → text ≠ ['*']) :
    ∃ last ≠ '/', readTokens? tokens before (item.written ++ text) =
      if item.IsValid then readTokens? (item.token :: tokens) (some last) text else none := by
  cases item with
  | literal c =>
    obtain ⟨notRun, notAny, notSlash⟩ := faithful
    have valid : IsValid (.literal c) := trivial
    by_cases quoted : IsQuoted c
    · refine ⟨']', by decide, ?_⟩
      rw [if_pos valid, written, token, if_pos quoted, if_pos quoted]
      show readTokens? tokens before ('[' :: c :: ']' :: text) = _
      rw [readTokens?_charClass, readClass?_quoted quoted]
      rfl
    · refine ⟨c, notSlash, ?_⟩
      rw [if_pos valid, written, token, if_neg quoted, if_neg quoted]
      exact readTokens?_literal _ _ _ notRun notAny fun same => quoted (Or.inl same)
  | any => exact ⟨'?', by decide, readTokens?_any _ _ _⟩
  | run => exact ⟨'*', by decide, readTokens?_run notAfter noSlash (notAlone rfl)⟩
  | charClass members =>
    obtain ⟨isClass, noCaret, -⟩ := faithful
    refine ⟨']', by decide, ?_⟩
    have closed : written (.charClass members) ++ text = '[' :: (members ++ ']' :: text) := by
      simp [written]
    rw [closed, readTokens?_charClass, readClass?_eq isClass noCaret]
    show _ = if ValidMembers (classBody members) then _ else _
    split <;> rfl

theorem written_ne_nil (item : ShellItem) : item.written ≠ [] := by
  cases item with
  | literal c =>
    rw [written]
    split <;> exact List.cons_ne_nil _ _
  | any => exact List.cons_ne_nil _ _
  | run => exact List.cons_ne_nil _ _
  | charClass members => exact List.cons_ne_nil _ _

theorem IsFaithful.slash_notMem (faithful : item.IsFaithful) : '/' ∉ item.written := by
  cases item with
  | literal c =>
    rw [written]
    split <;> simp [Ne.symm faithful.2.2]
  | any => decide
  | run => decide
  | charClass members => simp [written, faithful.2.2]

/-- A star is the text of one run only. -/
theorem eq_run_of_written (faithful : ∀ item ∈ items, item.IsFaithful)
    (star : items.flatMap written = ['*']) : items = [.run] := by
  cases items with
  | nil => cases star
  | cons item rest =>
    have first := (List.forall_mem_cons.mp faithful).1
    rw [List.flatMap_cons] at star
    cases item with
    | literal c =>
      rw [written] at star
      split at star
      · simp at star
      · exact absurd (List.cons.inj star).1 first.1
    | any => simp [written] at star
    | run =>
      have none : rest.flatMap written = [] := (List.cons.inj star).2
      cases rest with
      | nil => rfl
      | cons item rest =>
        exact absurd (List.append_eq_nil_iff.mp none).1 item.written_ne_nil
    | charClass members => simp [written] at star

/-- **Reading all items**: their tokens are added in order, unless one is not valid. -/
theorem readTokens?_flatMap_written (faithful : ∀ item ∈ items, item.IsFaithful)
    (notAfter : before ≠ some '/') (notAlone : tokens = [] → items ≠ [.run, .run]) :
    readTokens? tokens before (items.flatMap written) =
      if ∀ item ∈ items, item.IsValid then some (tokens.reverse ++ items.map token) else none := by
  induction items generalizing tokens before with
  | nil =>
    rw [List.flatMap_nil, readTokens?]
    simp
  | cons item items step =>
    obtain ⟨first, others⟩ := List.forall_mem_cons.mp faithful
    have noSlash : '/' ∉ items.flatMap written := by
      rw [List.mem_flatMap]
      rintro ⟨other, isItem, slash⟩
      exact (others other isItem).slash_notMem slash
    have notPair : item = .run → tokens = [] → items.flatMap written ≠ ['*'] := by
      rintro rfl none star
      exact notAlone none (by rw [eq_run_of_written others star])
    obtain ⟨last, notSlash, read⟩ := first.readTokens?_written notAfter noSlash notPair
    rw [List.flatMap_cons, read]
    simp only [List.forall_mem_cons]
    by_cases valid : item.IsValid
    · rw [if_pos valid, step others (by simpa using notSlash) (by simp)]
      simp [valid]
    · rw [if_neg valid, if_neg fun both => valid both.1]

end ShellItem

/-! ### Bytes and characters -/

theorem textBytes_of_ascii {text : List Char} (ascii : ∀ c ∈ text, c.toNat < 128) :
    textBytes text = text.map Char.toUInt8 := by
  induction text with
  | nil => rfl
  | cons c text step =>
    obtain ⟨first, rest⟩ := List.forall_mem_cons.mp ascii
    rw [List.map_cons, ← step rest, textBytes, List.flatMap_cons, utf8EncodeChar_of_ascii first]
    rfl

/-- One byte of a set is one character whose byte is in the set. -/
theorem map_mem_oneOf_iff {takes : UInt8 → Bool} {accepts : Char → Bool} {piece : List Char}
    (same : ∀ c ∈ piece, takes c.toUInt8 = accepts c) :
    piece.map Char.toUInt8 ∈ oneOf takes ↔ piece ∈ oneOf accepts := by
  rw [mem_oneOf, mem_oneOf]
  constructor
  · rintro ⟨byte, equal, taken⟩
    obtain ⟨c, rfl, rfl⟩ := List.map_eq_singleton_iff.mp equal
    exact ⟨c, rfl, by rw [← same c (by simp), taken]⟩
  · rintro ⟨c, rfl, accepted⟩
    exact ⟨c.toUInt8, rfl, by rw [same c (by simp), accepted]⟩

/-- An ASCII text has the bytes of a character only if it is that character. -/
theorem map_eq_utf8EncodeChar_iff {piece : List Char} (ascii : ∀ c ∈ piece, c.toNat < 128)
    {c : Char} : piece.map Char.toUInt8 = String.utf8EncodeChar c ↔ piece = [c] := by
  constructor
  · intro equal
    cases piece with
    | nil => exact absurd equal.symm String.utf8EncodeChar_ne_nil
    | cons d rest =>
      have asciiFirst := ascii d List.mem_cons_self
      have same : d = c := (toUInt8_mem_iff asciiFirst c).mp (by simp [← equal])
      subst same
      rw [utf8EncodeChar_of_ascii asciiFirst, List.map_cons, List.cons_inj_right] at equal
      rw [List.map_eq_nil_iff.mp equal]
  · rintro rfl
    rw [utf8EncodeChar_of_ascii (ascii c List.mem_cons_self)]
    rfl

namespace ShellItem

/-- On ASCII the token of an item takes the bytes of what the item takes. -/
theorem map_mem_token_language_iff (item : ShellItem) {piece : List Char}
    (ascii : ∀ c ∈ piece, c.toNat < 128) :
    piece.map Char.toUInt8 ∈ item.token.language ↔ piece ∈ item.language := by
  cases item with
  | literal c =>
    rw [token, language]
    split
    next quoted =>
      rw [← oneOf_beq]
      refine map_mem_oneOf_iff fun d isChar => ?_
      have taken := @CharRange.takesByte_ascii_iff d (ascii d isChar) ⟨c, c⟩
      rw [Bool.eq_iff_iff, List.any_cons, List.any_nil, Bool.or_false, Bool.bne_false, beq_iff_eq,
        taken]
      exact ⟨fun both => le_antisymm both.2 both.1, fun same => same ▸ ⟨le_refl d, le_refl d⟩⟩
    next => exact map_eq_utf8EncodeChar_iff ascii
  | any => exact map_mem_oneOf_iff fun _ _ => rfl
  | run => exact Iff.rfl
  | charClass members =>
    refine map_mem_oneOf_iff fun c isChar => ?_
    have has : ((classItems (classBody members)).map ClassItem.range).any
        (·.takesByte c.toUInt8) = true ↔ ∃ item ∈ classItems (classBody members), item.Has c := by
      simp only [List.any_map, List.any_eq_true, Function.comp_apply,
        CharRange.takesByte_ascii_iff (ascii c isChar)]
      exact Iff.rfl
    rw [Bool.eq_iff_iff, bne_iff_ne, decide_eq_true_eq, ← has]
    by_cases negated : IsNegated members
    · simp [negated]
    · simp [negated]

/-- On ASCII the tokens of the items take the bytes of what the items take. -/
theorem map_mem_language_iff (items : List ShellItem) {name : List Char}
    (ascii : ∀ c ∈ name, c.toNat < 128) :
    name.map Char.toUInt8 ∈ Glob.language (items.map token) ↔
      name ∈ (items.map language).prod := by
  induction items generalizing name with
  | nil => exact List.map_eq_nil_iff
  | cons item items step =>
    rw [List.map_cons, Glob.language_cons, List.map_cons, List.prod_cons, Language.mem_mul,
      Language.mem_mul]
    constructor
    · rintro ⟨front, isFront, back, isBack, equal⟩
      obtain ⟨piece, rest, rfl, rfl, rfl⟩ := List.append_eq_map_iff.mp equal
      obtain ⟨asciiPiece, asciiRest⟩ := List.forall_mem_append.mp ascii
      exact ⟨piece, (item.map_mem_token_language_iff asciiPiece).mp isFront, rest,
        (step asciiRest).mp isBack, rfl⟩
    · rintro ⟨piece, isPiece, rest, isRest, rfl⟩
      obtain ⟨asciiPiece, asciiRest⟩ := List.forall_mem_append.mp ascii
      exact ⟨_, (item.map_mem_token_language_iff asciiPiece).mpr isPiece, _,
        (step asciiRest).mpr isRest, List.map_append.symm⟩

/-! ### Selecting names -/

variable {name : List Char}

theorem Reads.shellMatches_iff (reads : Reads pattern items) :
    ShellMatches pattern name ↔
      (∀ item ∈ items, item.IsValid) ∧ name ∈ (items.map language).prod := by
  constructor
  · rintro ⟨others, reads', valid, isName⟩
    rw [reads.unique reads']
    exact ⟨valid, isName⟩
  · rintro ⟨valid, isName⟩
    exact ⟨items, reads, valid, isName⟩

/-- A pattern without `*`, `?` and `[` matches itself only. -/
theorem Reads.eq_of_plain (reads : Reads pattern items) (plain : pattern.any isGlobChar = false)
    (isName : name ∈ (items.map language).prod) : name = pattern := by
  induction reads generalizing name with
  | nil => exact isName
  | run => simp [isGlobChar] at plain
  | any => simp [isGlobChar] at plain
  | charClass => simp [isGlobChar] at plain
  | unclosed => simp [isGlobChar] at plain
  | literal _ _ _ reads step =>
    rw [List.any_cons, Bool.or_eq_false_iff] at plain
    rw [List.map_cons, List.prod_cons, Language.mem_mul] at isName
    obtain ⟨piece, isPiece, rest, isRest, rfl⟩ := isName
    rw [step plain.2 isRest, show piece = [_] from isPiece]
    rfl

theorem token_ne_leadingDirs (item : ShellItem) : item.token ≠ .leadingDirs := by
  cases item with
  | literal c =>
    rw [token]
    split <;> exact fun same => nomatch same
  | any => exact fun same => nomatch same
  | run => exact fun same => nomatch same
  | charClass members => exact fun same => nomatch same

end ShellItem

/-- **The translated glob accepts the bytes that the tokens of its items take**, and none if an item
is not valid. -/
theorem ShellItem.Reads.accepts_iff {pattern : List Char} {items : List ShellItem}
    (reads : Reads pattern items) (noSlash : '/' ∉ pattern)
    (noCaret : ∀ item ∈ items, ¬ item.OpensWithCaret) (bytes : List UInt8) :
    (Glob.read? (shellToGlob pattern)).any (·.accepts bytes) = true ↔
      (∀ item ∈ items, item.IsValid) ∧ bytes ∈ Glob.language (items.map token) := by
  have faithful := reads.isFaithful noSlash noCaret
  rw [Glob.read?, reads.shellToGlob_eq faithful]
  by_cases pair : items = [.run, .run]
  · -- Two stars alone are read as leading directories, but such a glob accepts everything.
    subst pair
    have alone : readTokens? [] none ['*', '*'] = some [.leadingDirs] := by
      simp [readTokens?, readDoubleStar]
    have matched : bytes ∈ (⊤ : Language UInt8) * (⊤ * 1) :=
      ⟨bytes, mem_top_language _, [], ⟨[], mem_top_language _, [], rfl, rfl⟩, List.append_nil _⟩
    show ((readTokens? [] none ['*', '*']).map Glob.mk).any _ = true ↔ _
    rw [alone]
    exact iff_of_true rfl ⟨by decide, matched⟩
  · rw [readTokens?_flatMap_written faithful (by decide) fun _ => pair]
    by_cases valid : ∀ item ∈ items, item.IsValid
    · rw [if_pos valid, List.reverse_nil, List.nil_append, Option.map_some, Option.any_some,
        Glob.accepts_iff]
      have notAlone : items.map token ≠ [.leadingDirs] := by
        intro same
        obtain ⟨item, -, leading⟩ := List.map_eq_singleton_iff.mp same
        exact item.token_ne_leadingDirs leading
      exact ⟨fun found => ⟨valid, found.resolve_left notAlone⟩, fun found => Or.inr found.2⟩
    · rw [if_neg valid]
      simp [valid]

/-- **The translated glob accepts an ASCII name exactly if the shell glob matches it.** -/
theorem shellToGlob_accepts_iff {pattern name : List Char} (noSlash : '/' ∉ pattern)
    (noCaret : CaretFree pattern) (ascii : ∀ c ∈ name, c.toNat < 128) :
    (Glob.read? (shellToGlob pattern)).any (·.accepts (textBytes name)) = true ↔
      ShellMatches pattern name := by
  obtain ⟨items, reads⟩ := ShellItem.exists_reads pattern
  rw [reads.shellMatches_iff, reads.accepts_iff noSlash (noCaret items reads),
    textBytes_of_ascii ascii, ShellItem.map_mem_language_iff items ascii]

/-- **A pattern without slashes and without a class that opens with `^` selects an ASCII name if
and only if the name starts with the pattern, or the shell glob is valid and matches the name.** -/
theorem NamePattern.selects_iff_shellMatches (pattern name : String)
    (noSlash : '/' ∉ pattern.toList) (noCaret : CaretFree pattern.toList)
    (ascii : ∀ c ∈ name.toList, c.toNat < 128) :
    (ofText pattern).selects name = true ↔
      pattern.toList <+: name.toList ∨ ShellMatches pattern.toList name.toList := by
  rw [selects, Bool.or_eq_true, List.isPrefixOf_iff_prefix]
  refine or_congr_right' fun notStart => ?_
  by_cases plain : pattern.toList.any isGlobChar = true
  · rw [ofText, if_pos plain]
    exact shellToGlob_accepts_iff noSlash noCaret ascii
  · rw [ofText, if_neg plain]
    refine iff_of_false (by simp) ?_
    rintro ⟨items, reads, -, isName⟩
    rw [reads.eq_of_plain (Bool.not_eq_true _ ▸ plain) isName] at notStart
    exact notStart List.prefix_rfl

/-- A negated class that holds a bracket and a range, a brace, a star and an unclosed bracket. -/
theorem NamePattern.selects_class_brace_star :
    '/' ∉ "[!]-a]\x7b*[".toList ∧ CaretFree "[!]-a]\x7b*[".toList ∧
      ((ofText "[!]-a]\x7b*[").selects "x\x7bok[" = true ↔
        "[!]-a]\x7b*[".toList <+: "x\x7bok[".toList ∨
          ShellMatches "[!]-a]\x7b*[".toList "x\x7bok[".toList) := by
  have noSlash : '/' ∉ "[!]-a]\x7b*[".toList := by decide
  have isClass : IsClass ['!', ']', '-', 'a'] := ⟨by decide, by decide⟩
  have noClass := splitClass?_eq_none_iff.mp (show splitClass? [] = none from rfl)
  have expected : ShellItem.Reads ['[', '!', ']', '-', 'a', ']', '\x7b', '*', '[']
      [.charClass ['!', ']', '-', 'a'], .literal '\x7b', .run, .literal '['] :=
    .charClass isClass
      (.literal (by decide) (by decide) (by decide) (.run (.unclosed noClass .nil)))
  have noCaret : CaretFree "[!]-a]\x7b*[".toList := by
    intro items reads
    rw [reads.unique expected]
    simp [ShellItem.OpensWithCaret]
  exact ⟨noSlash, noCaret, selects_iff_shellMatches _ _ noSlash noCaret (by simp)⟩

end TagAudit
