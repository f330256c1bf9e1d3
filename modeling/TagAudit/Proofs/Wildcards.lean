/-
**Patterns without classes.**

In a pattern without an opening bracket every character is an item of its own: a star, a question
mark, or a character that stands for itself, braces and backslashes among them.

* `wildcardBytes` are the byte strings that such a pattern stands for, character by character;
* `NamePattern.accepts_iff_wildcardBytes`: the glob of such a pattern accepts exactly these;
* `NamePattern.selects_iff_wildcardBytes`: which names it selects.

Slashes are left out: stars next to slashes have a meaning of their own in a glob.
-/

import TagAudit.Proofs.NameSelection

namespace TagAudit

namespace ShellItem

/-- The item that a character stands for outside of a class. -/
def ofChar (c : Char) : ShellItem := if c = '*' then .run else if c = '?' then .any else .literal c

theorem ofChar_literal {c : Char} (notRun : c ≠ '*') (notAny : c ≠ '?') : ofChar c = .literal c := by
  rw [ofChar, if_neg notRun, if_neg notAny]

/-- A pattern without classes is read character by character. -/
theorem reads_map_ofChar {pattern : List Char} (noClass : '[' ∉ pattern) :
    Reads pattern (pattern.map ofChar) := by
  induction pattern with
  | nil => exact .nil
  | cons c rest step =>
    have reads := step (List.not_mem_of_not_mem_cons noClass)
    by_cases isRun : c = '*'
    · subst isRun
      exact .run reads
    · by_cases isAny : c = '?'
      · subst isAny
        exact .any reads
      · rw [List.map_cons, ofChar_literal isRun isAny]
        exact .literal isRun isAny (Ne.symm (List.ne_of_not_mem_cons noClass)) reads

/-- A character is no class, so nothing can be wrong with it. -/
theorem ofChar_noClass (c : Char) : (ofChar c).IsValid ∧ ¬ (ofChar c).OpensWithCaret := by
  unfold ofChar
  split
  · exact ⟨trivial, id⟩
  · split <;> exact ⟨trivial, id⟩

/-- A character that stands for itself stands for its bytes, also where it is written as a class. -/
theorem token_language_literal (c : Char) :
    (ShellItem.literal c).token.language = {String.utf8EncodeChar c} := by
  by_cases quoted : IsQuoted c
  · have ascii : c.toNat < 128 := by rcases quoted with rfl | rfl | rfl <;> decide
    have single := utf8EncodeChar_of_ascii ascii
    rw [token, if_pos quoted, single, ← oneOf_beq]
    refine congrArg oneOf (funext fun byte => ?_)
    rw [Bool.eq_iff_iff]
    simp [CharRange.takesByte, single]
  · rw [token, if_neg quoted]
    rfl

end ShellItem

/-- The byte strings that a pattern without classes stands for. -/
def wildcardBytes (pattern : List Char) : Language UInt8 :=
  Glob.language ((pattern.map ShellItem.ofChar).map ShellItem.token)

section WildcardBytes

variable {rest : List Char} {bytes : List UInt8}

theorem mem_wildcardBytes_nil : bytes ∈ wildcardBytes [] ↔ bytes = [] :=
  Iff.rfl

theorem mem_wildcardBytes_star :
    bytes ∈ wildcardBytes ('*' :: rest) ↔
      ∃ run back, bytes = run ++ back ∧ back ∈ wildcardBytes rest := by
  show bytes ∈ (⊤ : Language UInt8) * wildcardBytes rest ↔ _
  rw [Language.mem_mul]
  constructor
  · rintro ⟨run, -, back, isBack, rfl⟩
    exact ⟨run, back, rfl, isBack⟩
  · rintro ⟨run, back, rfl, isBack⟩
    exact ⟨run, mem_top_language _, back, isBack, rfl⟩

theorem mem_wildcardBytes_any :
    bytes ∈ wildcardBytes ('?' :: rest) ↔
      ∃ byte back, bytes = byte :: back ∧ back ∈ wildcardBytes rest := by
  show bytes ∈ oneOf (fun _ => true) * wildcardBytes rest ↔ _
  rw [Language.mem_mul]
  constructor
  · rintro ⟨_, ⟨byte, rfl, -⟩, back, isBack, rfl⟩
    exact ⟨byte, back, rfl, isBack⟩
  · rintro ⟨byte, back, rfl, isBack⟩
    exact ⟨[byte], ⟨byte, rfl, rfl⟩, back, isBack, rfl⟩

theorem mem_wildcardBytes_literal {c : Char} (notRun : c ≠ '*') (notAny : c ≠ '?') :
    bytes ∈ wildcardBytes (c :: rest) ↔
      ∃ back, bytes = String.utf8EncodeChar c ++ back ∧ back ∈ wildcardBytes rest := by
  rw [wildcardBytes, List.map_cons, List.map_cons, Glob.language_cons,
    ShellItem.ofChar_literal notRun notAny, ShellItem.token_language_literal, Language.mem_mul]
  constructor
  · rintro ⟨_, rfl, back, isBack, rfl⟩
    exact ⟨back, rfl, isBack⟩
  · rintro ⟨back, rfl, isBack⟩
    exact ⟨_, rfl, back, isBack, rfl⟩

end WildcardBytes

namespace NamePattern

variable {pattern : String} (noClass : '[' ∉ pattern.toList) (noSlash : '/' ∉ pattern.toList)

include noClass noSlash

/-- **The glob of a pattern without classes accepts the byte strings that the pattern stands for.**
There is a glob only if there is a star or a question mark. -/
theorem accepts_iff_wildcardBytes (bytes : List UInt8) :
    (ofText pattern).glob.any (·.accepts bytes) = true ↔
      ('*' ∈ pattern.toList ∨ '?' ∈ pattern.toList) ∧ bytes ∈ wildcardBytes pattern.toList := by
  have isGlob : pattern.toList.any isGlobChar = true ↔
      '*' ∈ pattern.toList ∨ '?' ∈ pattern.toList := by
    simp [isGlobChar, and_or_left, exists_or, noClass]
  have reads := ShellItem.reads_map_ofChar noClass
  have noCaret : ∀ item ∈ pattern.toList.map ShellItem.ofChar, ¬ item.OpensWithCaret :=
    List.forall_mem_map.mpr fun c _ => (ShellItem.ofChar_noClass c).2
  have valid : ∀ item ∈ pattern.toList.map ShellItem.ofChar, item.IsValid :=
    List.forall_mem_map.mpr fun c _ => (ShellItem.ofChar_noClass c).1
  rw [ofText, ← isGlob]
  by_cases wild : pattern.toList.any isGlobChar = true
  · rw [if_pos wild, reads.accepts_iff noSlash noCaret]
    exact ⟨fun found => ⟨wild, found.2⟩, fun found => ⟨valid, found.2⟩⟩
  · rw [if_neg wild]
    exact iff_of_false (by simp) fun found => wild found.1

/-- **A pattern without classes selects** the names that start with it and, if it has a star or a
question mark, those whose bytes it stands for. -/
theorem selects_iff_wildcardBytes (name : String) :
    (ofText pattern).selects name = true ↔ pattern.toList <+: name.toList ∨
      ('*' ∈ pattern.toList ∨ '?' ∈ pattern.toList) ∧
        textBytes name.toList ∈ wildcardBytes pattern.toList := by
  rw [selects, Bool.or_eq_true, List.isPrefixOf_iff_prefix,
    accepts_iff_wildcardBytes noClass noSlash]
  exact Iff.rfl

end NamePattern

end TagAudit
