/-
**Classes that open with a caret.**

In a shell glob a `^` behind the opening bracket is a member like any other; in a glob it negates.
So such a class is written with its members rearranged: the last member is repeated in front, or the
caret goes to the end. Either way keeps the class, unless a caret or a `!` comes to the front by it,
or a `-` that loses the start of its range.

* `SameClass`: two lists of members are both not valid, or hold the same characters and bytes;
* `sameClass_repeat_last`, `sameClass_caret_last`: the two ways to rearrange the members;
* `Misplaced` are the members for which this goes wrong;
* `writeClass_readsAsMembers`: all others are written in a form that is read as their class;
* `not_readsAsMembers_of_negated`: those with a caret or a `!` in front are not, and
  `misplaced_members_read_wrong` has an example of each kind.
-/

import TagAudit.Proofs.NameSelection

namespace TagAudit

/-! ### The class of some members -/

/-- The class of the members holds the character. -/
def HoldsChar (members : List Char) (c : Char) : Prop := ∃ item ∈ classItems members, item.Has c

/-- The class of the members holds the byte. -/
def HoldsByte (members : List Char) (byte : UInt8) : Prop :=
  ∃ item ∈ classItems members, item.range.takesByte byte = true

/-- Both lists of members are not valid, or they hold the same characters and the same bytes. -/
structure SameClass (members others : List Char) : Prop where
  valid : ValidMembers others ↔ ValidMembers members
  chars : ValidMembers members → ∀ c, HoldsChar others c ↔ HoldsChar members c
  bytes : ValidMembers members → ∀ byte, HoldsByte others byte ↔ HoldsByte members byte

/-- The text is refused exactly if a range of the members runs backwards. Otherwise it is read as a
class that is not negated, or as a caret alone, with the characters and the bytes of the members. -/
structure ReadsAsMembers (members text : List Char) : Prop where
  refused : Glob.read? text = none ↔ ¬ ValidMembers members
  chars : ∀ glob, Glob.read? text = some glob → ∃ ranges : List CharRange,
    (glob.tokens = [.charClass false ranges] ∨
      glob.tokens = [.literal '^'] ∧ ranges = [⟨'^', '^'⟩]) ∧
    ∀ c, (∃ range ∈ ranges, range.low ≤ c ∧ c ≤ range.high) ↔ HoldsChar members c
  accepts : ∀ glob, Glob.read? text = some glob → ∀ bytes,
    glob.accepts bytes = true ↔ ∃ byte, bytes = [byte] ∧ HoldsByte members byte

/-! ### Bytes of a range -/

/-- A character beyond ASCII has a first byte beyond all bytes that end one. -/
theorem utf8EncodeChar_of_beyond {c : Char} (beyond : 128 ≤ c.toNat) :
    ∃ first middle last, String.utf8EncodeChar c = first :: (middle ++ [last]) ∧
      0xc0 ≤ first.toNat ∧ last.toNat < 0xc0 := by
  have large : ¬ c.val.toNat ≤ 0x7f := Nat.not_le_of_lt beyond
  unfold String.utf8EncodeChar
  simp only [if_neg large]
  split
  · refine ⟨_, [], _, rfl, ?_, ?_⟩ <;> (rw [UInt8.toNat_ofNat']; omega)
  · split
    · refine ⟨_, [_], _, rfl, ?_, ?_⟩ <;> (rw [UInt8.toNat_ofNat']; omega)
    · refine ⟨_, [_, _], _, rfl, ?_, ?_⟩ <;> (rw [UInt8.toNat_ofNat']; omega)

/-- The last byte of the low end of a range is not above the first byte of its high end. -/
theorem getLast_le_head {low high : Char} (forward : low ≤ high) {last first : UInt8}
    (isLast : (String.utf8EncodeChar low).getLast? = some last)
    (isFirst : (String.utf8EncodeChar high).head? = some first) : last ≤ first := by
  have ordered : low.toNat ≤ high.toNat := forward
  rw [UInt8.le_iff_toNat_le]
  by_cases highAscii : high.toNat < 128
  · have lowAscii : low.toNat < 128 := Nat.lt_of_le_of_lt ordered highAscii
    rw [utf8EncodeChar_of_ascii highAscii] at isFirst
    rw [utf8EncodeChar_of_ascii lowAscii, List.getLast?_singleton] at isLast
    obtain rfl := Option.some.inj isFirst
    obtain rfl := Option.some.inj isLast
    rw [toNat_toUInt8_of_ascii highAscii, toNat_toUInt8_of_ascii lowAscii]
    exact ordered
  · obtain ⟨head, _, _, encoded, large, _⟩ := utf8EncodeChar_of_beyond (Nat.le_of_not_lt highAscii)
    rw [encoded] at isFirst
    obtain rfl := Option.some.inj isFirst
    refine Nat.le_of_lt (Nat.lt_of_lt_of_le ?_ large)
    by_cases lowAscii : low.toNat < 128
    · rw [utf8EncodeChar_of_ascii lowAscii, List.getLast?_singleton] at isLast
      obtain rfl := Option.some.inj isLast
      rw [toNat_toUInt8_of_ascii lowAscii]
      omega
    · obtain ⟨front, middle, _, lowEncoded, _, small⟩ :=
        utf8EncodeChar_of_beyond (Nat.le_of_not_lt lowAscii)
      rw [lowEncoded, ← List.cons_append, List.getLast?_concat] at isLast
      obtain rfl := Option.some.inj isLast
      exact small

/-- A range takes every byte of its high end. -/
theorem CharRange.takesByte_of_mem_high {range : CharRange} (forward : range.low ≤ range.high)
    {byte : UInt8} (isByte : byte ∈ String.utf8EncodeChar range.high) :
    range.takesByte byte = true := by
  unfold takesByte
  split
  next single =>
    rw [List.contains_iff_mem, single]
    exact isByte
  next =>
    obtain ⟨first, rest, encoded⟩ :=
      List.exists_cons_of_ne_nil (@String.utf8EncodeChar_ne_nil range.high)
    obtain ⟨last, isLast⟩ : ∃ last, (String.utf8EncodeChar range.low).getLast? = some last :=
      ⟨_, List.getLast?_eq_some_getLast String.utf8EncodeChar_ne_nil⟩
    have below : last ≤ first := getLast_le_head forward isLast (by rw [encoded, List.head?_cons])
    rw [encoded] at isByte
    simp only [encoded, isLast]
    rcases List.mem_cons.mp isByte with rfl | isLater
    · simp [below]
    · simp [isLater]

theorem CharRange.takesByte_single (c : Char) (byte : UInt8) :
    takesByte ⟨c, c⟩ byte = true ↔ byte ∈ String.utf8EncodeChar c := by
  simp [takesByte]

/-! ### The two ways to rearrange the members -/

namespace ClassItem

theorem low_le_high {item : ClassItem} (valid : item.IsValid) : item.low ≤ item.high := by
  unfold high
  cases isHigh : item.highs.getLast? with
  | none => exact le_refl item.low
  | some high => exact valid high (List.mem_of_getLast? isHigh)

/-- What does not end a list does not end the rest of it. -/
theorem getLast?_rest_ne {first c : Char} {rest : List Char}
    (notLast : (first :: rest).getLast? ≠ some c) : rest.getLast? ≠ some c := by
  intro isLast
  refine notLast ?_
  rw [List.getLast?_cons, isLast, Option.getD_some]

/-- The last member of a class is the high end of an item. -/
theorem exists_high_readOn (item : ClassItem) (text : List Char) :
    ∃ made ∈ item.readOn text, made.high = text.getLast?.getD item.high := by
  fun_induction readOn item text with
  | case1 item => exact ⟨item, List.mem_singleton_self _, rfl⟩
  | case2 item => exact ⟨⟨'-', []⟩, by simp, rfl⟩
  | case3 item high rest step =>
    obtain ⟨made, isMade, isHigh⟩ := step
    refine ⟨made, isMade, ?_⟩
    rw [isHigh, List.getLast?_cons_cons, List.getLast?_cons, Option.getD_some]
    simp [ClassItem.high]
  | case4 item c rest _ _ step =>
    obtain ⟨made, isMade, isHigh⟩ := step
    refine ⟨made, List.mem_cons_of_mem _ isMade, ?_⟩
    rw [isHigh, List.getLast?_cons, Option.getD_some]
    rfl

theorem readOn_of_ne (item : ClassItem) {c : Char} (notDash : c ≠ '-') (rest : List Char) :
    item.readOn (c :: rest) = item :: readOn ⟨c, []⟩ rest := by
  rw [readOn]
  · exact fun isDash _ => notDash isDash
  · exact fun _ _ isDash _ => notDash isDash

/-- A character behind the members is an item of its own if it is not a `-` and does not come
behind one. -/
theorem readOn_append {c : Char} (noDash : c ≠ '-') (item : ClassItem) {text : List Char}
    (noRange : text.getLast? ≠ some '-') :
    item.readOn (text ++ [c]) = item.readOn text ++ [⟨c, []⟩] := by
  fun_induction readOn item text with
  | case1 item => simp [readOn, noDash]
  | case2 item => exact absurd rfl noRange
  | case3 item high rest step =>
    exact step (getLast?_rest_ne (getLast?_rest_ne noRange))
  | case4 item d rest lastDash dash step =>
    have notDash : d ≠ '-' := by
      rintro rfl
      cases rest with
      | nil => exact lastDash rfl rfl
      | cons high rest => exact dash high rest rfl rfl
    rw [List.cons_append, readOn_of_ne item notDash, step (getLast?_rest_ne noRange),
      List.cons_append]

end ClassItem

theorem classItems_cons_of_ne (first : Char) {second : Char} (notDash : second ≠ '-')
    (rest : List Char) :
    classItems (first :: second :: rest) = ⟨first, []⟩ :: classItems (second :: rest) :=
  ClassItem.readOn_of_ne ⟨first, []⟩ notDash rest

/-- **The last member may be repeated in front of a caret.** -/
theorem sameClass_repeat_last {rest : List Char} {last : Char} (isLast : rest.getLast? = some last) :
    SameClass ('^' :: rest) (last :: '^' :: rest) := by
  have items : classItems (last :: '^' :: rest) = ⟨last, []⟩ :: classItems ('^' :: rest) :=
    classItems_cons_of_ne last (by decide) rest
  -- The repeated member ends a range of the class already.
  obtain ⟨made, isMade, endsThere⟩ := ClassItem.exists_high_readOn ⟨'^', []⟩ rest
  rw [isLast, Option.getD_some] at endsThere
  refine ⟨?_, fun valid c => ?_, fun valid byte => ?_⟩
  · rw [ValidMembers, items, List.forall_mem_cons]
    exact and_iff_right (ClassItem.isValid_single last)
  · have forward := ClassItem.low_le_high (valid made isMade)
    rw [HoldsChar, items, List.exists_mem_cons_iff]
    refine or_iff_right_of_imp fun has => ⟨made, isMade, ?_⟩
    obtain rfl : c = last := le_antisymm has.2 has.1
    exact ⟨endsThere ▸ forward, endsThere.ge⟩
  · have forward := ClassItem.low_le_high (valid made isMade)
    rw [HoldsByte, items, List.exists_mem_cons_iff]
    refine or_iff_right_of_imp fun takes => ⟨made, isMade, ?_⟩
    rw [ClassItem.range_single, CharRange.takesByte_single] at takes
    refine CharRange.takesByte_of_mem_high forward ?_
    rw [ClassItem.range, endsThere]
    exact takes

/-- **The caret may go to the end**, if it starts no range and does not end one there. -/
theorem sameClass_caret_last {first : Char} {rest : List Char} (notDash : first ≠ '-')
    (noRange : (first :: rest).getLast? ≠ some '-') :
    SameClass ('^' :: first :: rest) (first :: rest ++ ['^']) := by
  have items : classItems ('^' :: first :: rest) = ⟨'^', []⟩ :: classItems (first :: rest) :=
    classItems_cons_of_ne '^' notDash rest
  have moved : classItems (first :: rest ++ ['^']) = classItems (first :: rest) ++ [⟨'^', []⟩] :=
    ClassItem.readOn_append (by decide) ⟨first, []⟩ (ClassItem.getLast?_rest_ne noRange)
  have perm : (classItems (first :: rest ++ ['^'])).Perm (classItems ('^' :: first :: rest)) := by
    rw [items, moved]
    exact List.perm_append_singleton _ _
  refine ⟨?_, fun _ c => ?_, fun _ byte => ?_⟩
  · simp only [ValidMembers, perm.mem_iff]
  · simp only [HoldsChar, perm.mem_iff]
  · simp only [HoldsByte, perm.mem_iff]

/-! ### What is written is read -/

theorem readTokens?_nil (tokens : List GlobToken) (before : Option Char) :
    readTokens? tokens before [] = some tokens.reverse := by
  rw [readTokens?]

/-- A class that ends the text is read as one token. -/
theorem read?_of_readClass? {text : List Char} {token : GlobToken}
    (read : readClass? text = some (token, [])) : Glob.read? ('[' :: text) = some ⟨[token]⟩ := by
  rw [Glob.read?, readTokens?_charClass, read]
  show (readTokens? [token] (some ']') []).map Glob.mk = _
  rw [readTokens?_nil]
  rfl

theorem read?_of_refused {text : List Char} (refused : readClass? text = none) :
    Glob.read? ('[' :: text) = none := by
  rw [Glob.read?, readTokens?_charClass, refused]
  rfl

/-- A class whose first member does not negate is read as its items. -/
theorem read?_class {first : Char} (notNegation : first ≠ '!') (notCaret : first ≠ '^')
    {rest : List Char} (inside : ']' ∉ rest) :
    Glob.read? ('[' :: (first :: rest ++ [']'])) =
      if ValidMembers (first :: rest) then
        some ⟨[.charClass false ((classItems (first :: rest)).map ClassItem.range)]⟩
      else none := by
  have notNegated : ¬ IsNegated (first :: rest) := mt isNegated_cons.mp notNegation
  have isClass : IsClass (first :: rest) :=
    (isClass_of_not_negated notNegated).mpr ⟨List.cons_ne_nil _ _, inside⟩
  have noCaret : (first :: rest).head? ≠ some '^' := fun same => notCaret (Option.some.inj same)
  have read := readClass?_eq isClass noCaret []
  rw [classBody_of_not_negated notNegated, decide_eq_false notNegated] at read
  split
  next valid =>
    rw [if_pos valid] at read
    exact read?_of_readClass? read
  next backwards =>
    rw [if_neg backwards] at read
    exact read?_of_refused read

/-- A class that is not negated accepts one byte of its ranges. -/
theorem accepts_charClass_iff (ranges : List CharRange) (bytes : List UInt8) :
    Glob.accepts ⟨[.charClass false ranges]⟩ bytes = true ↔
      ∃ byte, bytes = [byte] ∧ ∃ range ∈ ranges, range.takesByte byte = true := by
  have single : Glob.language [.charClass false ranges] =
      oneOf fun byte => ranges.any (·.takesByte byte) != false := by
    rw [Glob.language_cons]
    exact mul_one _
  have notAlone : [GlobToken.charClass false ranges] ≠ [.leadingDirs] := by simp
  rw [Glob.accepts_iff, or_iff_right notAlone, single, mem_oneOf]
  simp only [Bool.bne_false, List.any_eq_true]

/-- Members that stand for a class are read as it if they are those of the same class. -/
theorem readsAsMembers_of_sameClass {members : List Char} {first : Char} {rest : List Char}
    (same : SameClass members (first :: rest)) (notNegation : first ≠ '!')
    (notCaret : first ≠ '^') (inside : ']' ∉ rest) :
    ReadsAsMembers members ('[' :: (first :: rest ++ [']'])) := by
  have read := read?_class notNegation notCaret inside
  by_cases valid : ValidMembers members
  · rw [if_pos (same.valid.mpr valid)] at read
    refine ⟨?_, ?_, ?_⟩
    · rw [read]
      simp [valid]
    · intro glob isGlob
      obtain rfl := Option.some.inj (read.symm.trans isGlob)
      refine ⟨_, .inl rfl, fun c => ?_⟩
      rw [← same.chars valid]
      simp only [List.mem_map, exists_exists_and_eq_and]
      rfl
    · intro glob isGlob bytes
      obtain rfl := Option.some.inj (read.symm.trans isGlob)
      rw [accepts_charClass_iff]
      refine exists_congr fun byte => and_congr_right fun _ => ?_
      rw [← same.bytes valid]
      simp only [List.mem_map, exists_exists_and_eq_and]
      rfl
  · rw [if_neg (mt same.valid.mp valid)] at read
    refine ⟨iff_of_true read valid, ?_, ?_⟩
    · intro glob isGlob
      rw [read] at isGlob
      cases isGlob
    · intro glob isGlob
      rw [read] at isGlob
      cases isGlob

/-- A caret alone is read as itself. -/
theorem readsAsMembers_caret : ReadsAsMembers ['^'] ['^'] := by
  have read : Glob.read? ['^'] = some ⟨[.literal '^']⟩ := by
    rw [Glob.read?, readTokens?_literal _ _ _ (by decide) (by decide) (by decide), readTokens?_nil]
    rfl
  have items : classItems ['^'] = [⟨'^', []⟩] := rfl
  refine ⟨?_, ?_, ?_⟩
  · rw [read]
    decide
  · intro glob isGlob
    obtain rfl := Option.some.inj (read.symm.trans isGlob)
    refine ⟨_, .inr ⟨rfl, rfl⟩, fun c => ?_⟩
    rw [HoldsChar, items]
    simp [ClassItem.Has, ClassItem.high]
  · intro glob isGlob bytes
    obtain rfl := Option.some.inj (read.symm.trans isGlob)
    have encoded : String.utf8EncodeChar '^' = [0x5e] := by decide
    have single : Glob.language [.literal '^'] = {[0x5e]} := by
      rw [Glob.language_cons]
      show {String.utf8EncodeChar '^'} * 1 = _
      rw [encoded, mul_one]
    have notAlone : [GlobToken.literal '^'] ≠ [.leadingDirs] := by simp
    rw [Glob.accepts_iff, or_iff_right notAlone, single]
    simp only [HoldsByte, items, List.mem_singleton, exists_eq_left, ClassItem.range_single,
      CharRange.takesByte_single, encoded, exists_eq_right]
    exact Iff.rfl

/-- The caret in front comes to a wrong place. The last member is a caret too, and it negates when
it is repeated in front. Or the last member is a `!`, so that the caret goes to the end, and the
next member negates when it comes to the front, or is a `-` that joined it to a range. -/
def Misplaced (members : List Char) : Prop :=
  members.tail.getLast? = some '^' ∨
    members.tail.getLast? = some '!' ∧
      (members.tail.head? = some '!' ∨ members.tail.head? = some '^' ∨ members.tail.head? = some '-')

instance (members : List Char) : Decidable (Misplaced members) :=
  inferInstanceAs (Decidable (_ ∨ _ ∧ (_ ∨ _ ∨ _)))

/-- **A class that opens with a caret is read as its members**, the caret among them, unless the
caret comes to a wrong place. -/
theorem writeClass_readsAsMembers {members : List Char} (opens : members.head? = some '^')
    (inside : ']' ∉ members) (placed : ¬ Misplaced members) :
    ReadsAsMembers members (writeClass members) := by
  obtain ⟨rest, rfl⟩ := List.head?_eq_some_iff.mp opens
  obtain ⟨notSecondCaret, notMoved⟩ := not_or.mp placed
  rw [List.tail_cons] at notSecondCaret notMoved
  cases rest with
  | nil => exact readsAsMembers_caret
  | cons first rest =>
    obtain ⟨last, isLast⟩ : ∃ last, (first :: rest).getLast? = some last :=
      ⟨_, List.getLast?_eq_some_getLast (List.cons_ne_nil _ _)⟩
    have notCaret : last ≠ '^' := by
      rintro rfl
      exact notSecondCaret isLast
    by_cases bang : last = '!'
    · subst bang
      obtain ⟨notNegation, notFirstCaret, notDash⟩ :
          first ≠ '!' ∧ first ≠ '^' ∧ first ≠ '-' := by simpa [isLast] using notMoved
      have same : SameClass ('^' :: first :: rest) (first :: rest ++ ['^']) :=
        sameClass_caret_last notDash (by simp [isLast])
      have written : writeClass ('^' :: first :: rest) =
          '[' :: (first :: (rest ++ ['^']) ++ [']']) := by
        simp [writeClass, isLast]
      have insideMoved : ']' ∉ rest ++ ['^'] := by
        simp only [List.mem_cons, not_or] at inside
        simp [inside]
      rw [written]
      exact readsAsMembers_of_sameClass same notNegation notFirstCaret insideMoved
    · have written : writeClass ('^' :: first :: rest) =
          '[' :: (last :: '^' :: first :: rest ++ [']']) := by
        simp [writeClass, isLast, bang]
      rw [written]
      exact readsAsMembers_of_sameClass (sameClass_repeat_last isLast) bang notCaret inside

/-- A caret, a range from a `!`, and a `-` at the end, which is repeated in front. -/
theorem writeClass_readsAsMembers_dash :
    ['^', '!', '-', 'a', '-'].head? = some '^' ∧ ']' ∉ ['^', '!', '-', 'a', '-'] ∧
      ¬ Misplaced ['^', '!', '-', 'a', '-'] ∧
      ReadsAsMembers ['^', '!', '-', 'a', '-'] ['[', '-', '^', '!', '-', 'a', '-', ']'] :=
  ⟨rfl, by decide, by decide, writeClass_readsAsMembers rfl (by decide) (by decide)⟩

/-- A class with a `!` or a caret in front is read as a negated one, so it is not read as members
that are valid. -/
theorem not_readsAsMembers_of_front {members body : List Char} {front : Char}
    (negates : front = '!' ∨ front = '^') (nonempty : body ≠ []) (inside : ']' ∉ body.tail)
    (valid : ValidMembers members) : ¬ ReadsAsMembers members ('[' :: front :: (body ++ [']'])) := by
  intro reads
  have read : readClass? (front :: (body ++ [']'])) =
      if ValidMembers body then some (.charClass true ((classItems body).map ClassItem.range), [])
      else none := by
    have found := readMembers?_eq body [] nonempty inside
    rcases negates with rfl | rfl
    · rw [readClass?, found]
      split <;> rfl
    · rw [readClass?, found]
      split <;> rfl
  by_cases validBody : ValidMembers body
  · rw [if_pos validBody] at read
    obtain ⟨_, isClass | ⟨isCaret, _⟩, _⟩ := reads.chars _ (read?_of_readClass? read)
    · simp at isClass
    · simp at isCaret
  · rw [if_neg validBody] at read
    exact reads.refused.mp (read?_of_refused read) valid

/-- **A caret or a `!` that comes to the front negates the class**: valid members are not read as
they are. -/
theorem not_readsAsMembers_of_negated {members : List Char} (opens : members.head? = some '^')
    (inside : ']' ∉ members) (valid : ValidMembers members)
    (negated : members.tail.getLast? = some '^' ∨ members.tail.getLast? = some '!' ∧
      (members.tail.head? = some '!' ∨ members.tail.head? = some '^')) :
    ¬ ReadsAsMembers members (writeClass members) := by
  obtain ⟨rest, rfl⟩ := List.head?_eq_some_iff.mp opens
  rw [List.tail_cons] at negated
  cases rest with
  | nil => simp at negated
  | cons first rest =>
    simp only [List.mem_cons, not_or] at inside
    rcases negated with caretLast | ⟨bangLast, front⟩
    · have written : writeClass ('^' :: first :: rest) =
          '[' :: '^' :: ('^' :: first :: rest ++ [']']) := by
        simp [writeClass, caretLast]
      rw [written]
      exact not_readsAsMembers_of_front (.inr rfl) (List.cons_ne_nil _ _)
        (by simp [inside]) valid
    · have written : writeClass ('^' :: first :: rest) =
          '[' :: first :: (rest ++ ['^'] ++ [']']) := by
        simp [writeClass, bangLast]
      have negates : first = '!' ∨ first = '^' := by simpa using front
      have outside : ']' ∉ (rest ++ ['^']).tail := fun member => by
        simpa [inside] using List.mem_of_mem_tail member
      rw [written]
      exact not_readsAsMembers_of_front negates (by simp) outside valid

/-- **Members that are read wrong.** A lone `!` behind the caret and a second caret at the end come
to the front and negate, and before a `!` at the end a range from the caret is lost. -/
theorem misplaced_members_read_wrong :
    ¬ ReadsAsMembers ['^', '!'] (writeClass ['^', '!']) ∧
      ¬ ReadsAsMembers ['^', 'a', '^'] (writeClass ['^', 'a', '^']) ∧
      ¬ ReadsAsMembers ['^', '-', 'a', '!'] (writeClass ['^', '-', 'a', '!']) := by
  refine ⟨?_, ?_, ?_⟩
  · exact not_readsAsMembers_of_negated rfl (by decide) (by decide) (by decide)
  · exact not_readsAsMembers_of_negated rfl (by decide) (by decide) (by decide)
  · have read : readClass? ['-', 'a', '!', '^', ']'] =
        some (.charClass false [⟨'-', '-'⟩, ⟨'a', 'a'⟩, ⟨'!', '!'⟩, ⟨'^', '^'⟩], []) := rfl
    intro reads
    obtain ⟨ranges, isClass | ⟨isCaret, _⟩, holds⟩ := reads.chars _ (read?_of_readClass? read)
    · -- The underscore lies between the caret and the `a`.
      have lost := (holds '_').mpr ⟨⟨'^', ['a']⟩, by decide, by decide⟩
      simp only [List.cons.injEq, GlobToken.charClass.injEq, and_true, true_and] at isClass
      subst isClass
      revert lost
      decide
    · simp at isCaret

end TagAudit
