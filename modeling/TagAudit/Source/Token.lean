/-
**Tokens.**

The tokens that do not belong to the layout: signs, words, numbers, escapes, comments. Which of
them are looked for depends on what the parser expects. All are followed at once, and the last one
that was found before nothing fits any more is the token.

* `Lexicon` knows the texts of the tokens and the sets in which they are looked for;
* `Lexicon.read` reads one token at a cursor.
-/

import Std.Data.HashMap
import TagAudit.Lexical.TokenMachine
import TagAudit.Source.Cursor

namespace TagAudit.Source

open Grammar Lexical

/-- What to look for: the spots at which tokens start, and whether the source may end. -/
structure Wanted where
  threads : Threads
  mayEnd : Bool
deriving Inhabited

/-- The texts of the tokens of a language. -/
structure Lexicon where
  machine : TokenMachine
  /-- The keywords by their texts. -/
  keywords : Std.HashMap (List Nat) Nat
  /-- The keywords that can never be names. -/
  reserved : TokenSet
  /-- The sets of tokens that are looked for together. -/
  wanted : Array Wanted
  escapeSequence : Nat

/-- A search for a token: the token found so far, and the cursor with its end marked. -/
structure Scan where
  found : Option Nat
  cursor : Cursor

namespace Lexicon

/-- The lexicon of a list of terminals. -/
def ofTerminals (terminals : List Terminal) (machine : TokenMachine)
    (vocabularies : Array TokenSet) : Lexicon :=
  let literals := terminals.zipIdx.filterMap fun (terminal, number) =>
    match terminal with
    | .literal text => some (terminal.isKeyword, text, number)
    | _ => none
  { machine := machine
    keywords := Std.HashMap.ofList (literals.filterMap fun (isKeyword, text, number) =>
      if isKeyword then some (text.toUTF8.toList.map (·.toNat), number) else none)
    reserved := TokenSet.ofList (literals.filterMap fun (_, text, number) =>
      if reservedWords.contains text then some number else none)
    wanted := vocabularies.map fun tokens => ⟨machine.start tokens, tokens.contains 0⟩
    escapeSequence := terminals.idxOf .escapeSequence }

variable (lexicon : Lexicon)

/-- Notes the token that can end at the cursor, if there is one. -/
def noteEnd (threads : Threads) (scan : Scan) : Scan :=
  match lexicon.machine.winner? threads with
  | some token => ⟨some token, scan.cursor.mark⟩
  | none => scan

/-- The step over a character, if there is one and the token found here does not forbid it. A null
character is no part of a text that may hold any character. -/
def step? (threads : Threads) (kind : Nat) : Option Move :=
  match lexicon.machine.move? threads kind with
  | none => none
  | some move =>
    let anyText : Bool :=
      kind == 0 && (lexicon.machine.move? threads otherKind).any (·.threads == move.threads)
    let allowed : Bool :=
      match lexicon.machine.winner? threads with
      | some found => lexicon.machine.allows threads found move
      | none => true
    if allowed && !anyText then some move else none

/-- What is found at the end of the source: its end if only white space stands before it. Where an
escape could go on, a backslash joins lines there as it does before a null character. -/
def scanEnd (threads : Threads) (mayEnd : Bool) (scan : Scan) : Scan :=
  if mayEnd then ⟨some 0, scan.cursor.mark⟩
  else if threads.spots.any fun number =>
      (lexicon.machine.spot number).token == lexicon.escapeSequence then
    match lexicon.step? threads 0 with
    | some move => lexicon.noteEnd move.threads scan
    | none => scan
  else scan

/-- Reads on as long as something fits; the fuel bounds the number of characters. White space
before a token is left out of it. -/
def readFrom : Nat → Threads → Bool → Scan → Scan
  | 0, _, _, scan => scan
  | fuel + 1, threads, mayEnd, scan =>
    let scan := lexicon.noteEnd threads scan
    if scan.cursor.atEnd then lexicon.scanEnd threads mayEnd scan
    else
      match lexicon.step? threads (kindOf scan.cursor.ahead) with
      | none => scan
      | some move =>
        let cursor := if move.blank then scan.cursor.skip else scan.cursor.advance
        readFrom fuel move.threads (mayEnd && move.blank) ⟨scan.found, cursor⟩

/-- Reads one of the tokens of a set at a cursor, if there is one. -/
def read (vocabulary : Nat) (cursor : Cursor) : Option Nat × Cursor :=
  let wanted := lexicon.wanted.getD vocabulary default
  let scan := lexicon.readFrom (cursor.left + 1) wanted.threads wanted.mayEnd ⟨none, cursor⟩
  (scan.found, scan.cursor)

end Lexicon

end TagAudit.Source
