/-
**Globs over bytes.**

A glob is a list of tokens read from a text. It accepts a byte string as a whole.

* `Glob.read?` reads the written form; a class whose range runs backwards or that is never closed
  makes it fail;
* `Glob.accepts` follows, token by token, which prefixes of the byte string can have been read.

In a class a `!` or `^` right after the opening bracket negates; `]` and `-` stand for themselves
in first position, and a `-` in last position does too. A class is a set of bytes: a character
contributes each byte of its encoding, a range contributes the bytes from the last byte of its low
end to the first byte of its high end and the remaining bytes of both ends.
-/

namespace TagAudit

/-- A range of characters of a class; a single member is a range from itself to itself. -/
structure CharRange where
  low : Char
  high : Char
deriving Repr, DecidableEq

/-- One token of a glob. -/
inductive GlobToken where
  /-- A character that stands for itself. -/
  | literal (c : Char)
  /-- Any one byte. -/
  | any
  /-- Any run of bytes. -/
  | run
  /-- One byte in (or, if negated, outside) the set of the ranges. -/
  | charClass (negated : Bool) (ranges : List CharRange)
  /-- At the start: nothing, or anything up to a slash. -/
  | leadingDirs
  /-- At the end: a slash and anything. -/
  | trailingDirs
  /-- In between: a slash, or two slashes with anything between them. -/
  | innerDirs
deriving Repr, DecidableEq

namespace CharRange

/-- The range takes the byte. -/
def takesByte (range : CharRange) (byte : UInt8) : Bool :=
  let low := String.utf8EncodeChar range.low
  let high := String.utf8EncodeChar range.high
  if range.low = range.high then low.contains byte
  else
    low.dropLast.contains byte || high.tail.contains byte ||
      (low.getLast?.any (· ≤ byte) && high.head?.any (byte ≤ ·))

end CharRange

/-- The state of reading the members of a class: the ranges so far, the last one first, and
whether a `-` after the last one waits for its high end. -/
structure ClassReader where
  ranges : List CharRange
  inRange : Bool
deriving Repr, DecidableEq

namespace ClassReader

/-- Makes `c` the high end of the last range; fails if the range then runs backwards. -/
def close? (reader : ClassReader) (c : Char) : Option ClassReader :=
  match reader.ranges with
  | [] => none
  | last :: others => if c < last.low then none else some ⟨⟨last.low, c⟩ :: others, false⟩

/-- Reads one member; `first` tells that nothing was read before it. -/
def step? (reader : ClassReader) (first : Bool) (c : Char) : Option ClassReader :=
  if reader.inRange then reader.close? c
  else if c = '-' && !first then some { reader with inRange := true }
  else some { reader with ranges := ⟨c, c⟩ :: reader.ranges }

/-- The ranges in the order in which they were written; a `-` left over is a member. -/
def finish (reader : ClassReader) : List CharRange :=
  (if reader.inRange then ⟨'-', '-'⟩ :: reader.ranges else reader.ranges).reverse

end ClassReader

/-- Reads the members of a class up to its closing bracket; a bracket in first position is a
member. Returns the ranges and the text after the class. -/
def readMembers? (reader : ClassReader) (first : Bool) :
    List Char → Option (List CharRange × List Char)
  | [] => none
  | c :: rest =>
    if c = ']' && !first then some (reader.finish, rest)
    else do readMembers? (← reader.step? first c) false rest

/-- Reads a class whose opening bracket has been read. -/
def readClass? (text : List Char) : Option (GlobToken × List Char) :=
  match text with
  | '!' :: rest => (readMembers? ⟨[], false⟩ true rest).map fun (ranges, after) =>
      (.charClass true ranges, after)
  | '^' :: rest => (readMembers? ⟨[], false⟩ true rest).map fun (ranges, after) =>
      (.charClass true ranges, after)
  | _ => (readMembers? ⟨[], false⟩ true text).map fun (ranges, after) =>
      (.charClass false ranges, after)

/-- Two stars in a row that are not next to slashes or ends read as two runs. -/
private def twoRuns (tokens : List GlobToken) : List GlobToken := .run :: .run :: tokens

/-- Lets a token for directories take the place of the slash before it; directly after another
such token at the start or the end it adds nothing. -/
private def absorbSlash (tokens : List GlobToken) (token : GlobToken) : List GlobToken :=
  match tokens with
  | .leadingDirs :: _ => tokens
  | .trailingDirs :: _ => tokens
  | _ :: others => token :: others
  | [] => [token]

/-- Reads two stars; `tokens` are the tokens so far, the last one first, `before` the character
before the stars and `rest` the text after them. Returns the tokens and the text left. -/
def readDoubleStar (tokens : List GlobToken) (before : Option Char) (rest : List Char) :
    List GlobToken × List Char :=
  if tokens.isEmpty then
    match rest with
    | [] => ([.leadingDirs], [])
    | '/' :: after => ([.leadingDirs], after)
    | _ => (twoRuns tokens, rest)
  else if before != some '/' then (twoRuns tokens, rest)
  else
    match rest with
    | [] => (absorbSlash tokens .trailingDirs, [])
    | '/' :: after => (absorbSlash tokens .innerDirs, after)
    | _ => (twoRuns tokens, rest)

/-- Reading two stars leaves no more text than stood after them. -/
theorem readDoubleStar_length_le (tokens : List GlobToken) (before : Option Char)
    (rest : List Char) : (readDoubleStar tokens before rest).2.length ≤ rest.length := by
  unfold readDoubleStar
  split
  · split <;> simp
  · split
    · simp
    · split <;> simp

/-- What remains after the members of a class is shorter than the text. -/
theorem readMembers?_length_lt {reader : ClassReader} {first : Bool} {text after : List Char}
    {ranges : List CharRange} (read : readMembers? reader first text = some (ranges, after)) :
    after.length < text.length := by
  induction text generalizing reader first with
  | nil => simp [readMembers?] at read
  | cons c rest step =>
    rw [readMembers?] at read
    split at read
    · simp only [Option.some.injEq, Prod.mk.injEq] at read
      simp [read.2]
    · cases next : reader.step? first c with
      | none => simp [next] at read
      | some reader' =>
        simp only [next, Option.bind_eq_bind, Option.bind_some] at read
        exact Nat.lt_succ_of_lt (step read)

/-- What remains after a class is shorter than the text. -/
theorem readClass?_length_lt {text after : List Char} {token : GlobToken}
    (read : readClass? text = some (token, after)) : after.length < text.length := by
  unfold readClass? at read
  split at read <;>
    · obtain ⟨⟨ranges, rest⟩, members, equal⟩ := Option.map_eq_some_iff.mp read
      simp only [Prod.mk.injEq] at equal
      have shorter := readMembers?_length_lt members
      rw [← equal.2]
      grind

/-- Reads tokens from a text; `before` is the character in front of it. -/
def readTokens? (tokens : List GlobToken) (before : Option Char) (text : List Char) :
    Option (List GlobToken) :=
  match text with
  | [] => some tokens.reverse
  | '?' :: rest => readTokens? (.any :: tokens) (some '?') rest
  | '*' :: '*' :: rest =>
    let next := readDoubleStar tokens before rest
    have := readDoubleStar_length_le tokens before rest
    readTokens? next.1 (if next.2.length < rest.length then some '/' else some '*') next.2
  | '*' :: rest => readTokens? (.run :: tokens) (some '*') rest
  | '[' :: rest =>
    match read : readClass? rest with
    | none => none
    | some (token, after) =>
      have := readClass?_length_lt read
      readTokens? (token :: tokens) (some ']') after
  | c :: rest => readTokens? (.literal c :: tokens) (some c) rest
termination_by text.length

/-- Which prefixes of a byte string have been read: entry `i` speaks of the first `i` bytes. -/
abbrev Marks := List Bool

namespace Marks

/-- Some prefix up to this one had been read. -/
def reached (seen : Bool) : Marks → Marks
  | [] => []
  | mark :: rest => (seen || mark) :: reached (seen || mark) rest

/-- One byte of the set is read. -/
def readByte (takes : UInt8 → Bool) (bytes : List UInt8) (marks : Marks) : Marks :=
  false :: List.zipWith (fun byte mark => mark && takes byte) bytes marks

/-- Either way of reading is open. -/
def either (first second : Marks) : Marks := List.zipWith (· || ·) first second

end Marks

namespace GlobToken

/-- The byte of a slash. -/
def slash : UInt8 := 0x2f

/-- Reads one token from every marked prefix. -/
def advance (token : GlobToken) (bytes : List UInt8) (marks : Marks) : Marks :=
  let readSlash := Marks.readByte (· == slash) bytes
  let readRun := Marks.reached false
  match token with
  | .literal c =>
    (String.utf8EncodeChar c).foldl (fun marks byte => Marks.readByte (· == byte) bytes marks) marks
  | .any => Marks.readByte (fun _ => true) bytes marks
  | .run => readRun marks
  | .charClass negated ranges =>
    Marks.readByte (fun byte => ranges.any (·.takesByte byte) != negated) bytes marks
  | .leadingDirs => Marks.either marks (readSlash (readRun marks))
  | .trailingDirs => readRun (readSlash marks)
  | .innerDirs => Marks.either (readSlash marks) (readSlash (readRun (readSlash marks)))

end GlobToken

/-- A glob as the list of its tokens. -/
structure Glob where
  tokens : List GlobToken
deriving Repr, DecidableEq

namespace Glob

/-- Reads the written form of a glob. -/
def read? (text : List Char) : Option Glob := (readTokens? [] none text).map Glob.mk

/-- The glob accepts the whole byte string. -/
def accepts (glob : Glob) (bytes : List UInt8) : Bool :=
  if glob.tokens = [.leadingDirs] then true
  else
    let start : Marks := true :: bytes.map fun _ => false
    let marks := glob.tokens.foldl (fun marks token => token.advance bytes marks) start
    marks.getLast?.getD false

end Glob

end TagAudit
