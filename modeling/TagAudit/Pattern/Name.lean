/-
**Name patterns.**

A pattern selects a name if the name starts with the pattern, or if the pattern holds a `*`, `?`
or `[` and, read as a shell glob, accepts the whole name. Letter case counts.

* `shellToGlob` writes a shell glob in the form that `Glob.read?` understands: braces and an
  unclosed bracket stand for themselves, and only `!` negates a class;
* `NamePattern.selects` is the test.
-/

import TagAudit.Pattern.Glob

namespace TagAudit

/-- The characters that make a pattern a glob. -/
def isGlobChar (c : Char) : Bool := c == '*' || c == '?' || c == '['

/-- Splits a text at its first closing bracket, which belongs to neither part. -/
def splitBracket? (text : List Char) : Option (List Char × List Char) :=
  match text with
  | [] => none
  | c :: rest =>
    if c = ']' then some ([], rest)
    else (splitBracket? rest).map fun (members, after) => (c :: members, after)

/-- Splits a text whose opening bracket has been read into the members of the class and the text
after its closing bracket. A leading `!` and a `]` after it or in first position are members. -/
def splitClass? (text : List Char) : Option (List Char × List Char) :=
  let after (lead body : List Char) : Option (List Char × List Char) :=
    (splitBracket? body).map fun (members, rest) => (lead ++ members, rest)
  match text with
  | '!' :: ']' :: rest => after ['!', ']'] rest
  | '!' :: rest => after ['!'] rest
  | ']' :: rest => after [']'] rest
  | _ => after [] text

/-- Writes a class with the given members. In first position a `^` would negate: alone it is
written as itself, else the last member goes before it or, if that would negate too, the `^` goes
to the end. -/
def writeClass (members : List Char) : List Char :=
  match members with
  | ['^'] => ['^']
  | '^' :: rest =>
    match rest.getLast? with
    | some last =>
      if last = '!' then '[' :: rest ++ ['^', ']'] else '[' :: last :: members ++ [']']
    | none => '[' :: members ++ [']']
  | _ => '[' :: members ++ [']']

/-- The text after a closing bracket is shorter than the text in which it was found. -/
theorem splitBracket?_length_lt {text members after : List Char}
    (found : splitBracket? text = some (members, after)) : after.length < text.length := by
  induction text generalizing members with
  | nil => simp [splitBracket?] at found
  | cons c rest step =>
    rw [splitBracket?] at found
    split at found
    · simp_all
    · obtain ⟨⟨inner, left⟩, split, equal⟩ := Option.map_eq_some_iff.mp found
      simp only [Prod.mk.injEq] at equal
      rw [equal.2] at split
      exact Nat.lt_succ_of_lt (step split)

/-- The text after a class is shorter than the text in which the class was found. -/
theorem splitClass?_length_lt {text members after : List Char}
    (found : splitClass? text = some (members, after)) : after.length < text.length := by
  unfold splitClass? at found
  split at found <;>
    · obtain ⟨⟨inner, left⟩, split, equal⟩ := Option.map_eq_some_iff.mp found
      have shorter := splitBracket?_length_lt split
      grind

/-- Writes a shell glob as a glob text. -/
def shellToGlob (pattern : List Char) : List Char :=
  match pattern with
  | [] => []
  | '[' :: rest =>
    match found : splitClass? rest with
    | some (members, after) =>
      have := splitClass?_length_lt found
      writeClass members ++ shellToGlob after
    | none => '[' :: '[' :: ']' :: shellToGlob rest
  | '\x7b' :: rest => '[' :: '\x7b' :: ']' :: shellToGlob rest
  | '\x7d' :: rest => '[' :: '\x7d' :: ']' :: shellToGlob rest
  | c :: rest => c :: shellToGlob rest
termination_by pattern.length

/-- The bytes of a text. -/
def textBytes (text : List Char) : List UInt8 := text.flatMap String.utf8EncodeChar

/-- A pattern for names, with its glob if it is one. -/
structure NamePattern where
  text : String
  glob : Option Glob
deriving Repr, DecidableEq

namespace NamePattern

/-- The pattern with the given text; a glob that cannot be read leaves the prefix test alone. -/
def ofText (text : String) : NamePattern where
  text := text
  glob := if text.toList.any isGlobChar then Glob.read? (shellToGlob text.toList) else none

/-- The pattern selects the name. -/
def selects (pattern : NamePattern) (name : String) : Bool :=
  pattern.text.toList.isPrefixOf name.toList ||
    pattern.glob.any (·.accepts (textBytes name.toList))

end NamePattern

end TagAudit
