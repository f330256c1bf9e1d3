/-
**Reading characters of YAML.**

A reader holds what is left of a text and the place it has reached.

* `Reader.skip` moves over a character, `Reader.skipLine` over a line end;
* `Reader.passWhile` moves over characters with a property;
* `isBreak` and `isBlank` are the classes of characters that matter.
-/

import TagAudit.Yaml.Fault

namespace TagAudit.Yaml

/-- What is left of a text, and the place in it. -/
structure Reader where
  rest : List Char
  mark : Mark
deriving Repr, DecidableEq, Inhabited

/-- A line end. -/
def isBreak (c : Char) : Bool :=
  c == '\n' || c == '\r' || c == '\x85' || c == '\u2028' || c == '\u2029'

/-- A space or a tab. -/
def isBlank (c : Char) : Bool := c == ' ' || c == '\t'

/-- A letter, digit, underscore or dash. -/
def isWordSign (c : Char) : Bool := c.isAlphanum || c == '_' || c == '-'

/-- The value of a hexadecimal digit. -/
def hexDigit? (c : Char) : Option Nat :=
  if c.isDigit then some (c.toNat - 48)
  else if 'a' ≤ c && c ≤ 'f' then some (c.toNat - 87)
  else if 'A' ≤ c && c ≤ 'F' then some (c.toNat - 55)
  else none

namespace Reader

/-- The start of a text. -/
def ofText (text : List Char) : Reader := ⟨text, .start⟩

/-- The next character, none at the end. -/
def peek? (reader : Reader) : Option Char := reader.rest.head?

/-- The character some places ahead, none behind the end. -/
def peekAt? (reader : Reader) (places : Nat) : Option Char := (reader.rest.drop places).head?

/-- Whether a given character comes next. -/
def sees (reader : Reader) (c : Char) : Bool := reader.peek? == some c

/-- Whether the text has ended. -/
def atEnd (reader : Reader) : Bool := reader.rest.isEmpty

/-- Whether a character with a property comes next. -/
def seesAny (reader : Reader) (property : Char → Bool) : Bool := reader.peek?.any property

/-- Whether a line end or the end of the text comes next. -/
def atLineEnd (reader : Reader) : Bool := reader.peek?.all isBreak

/-- Whether a blank, a line end or the end of the text stands some places ahead. -/
def gapAt (reader : Reader) (places : Nat) : Bool :=
  (reader.peekAt? places).all fun c => isBlank c || isBreak c

/-- Moves over a character. -/
def skip (reader : Reader) : Reader :=
  match reader.rest with
  | [] => reader
  | _ :: rest =>
    ⟨rest, { reader.mark with index := reader.mark.index + 1, column := reader.mark.column + 1 }⟩

/-- Moves over some characters. -/
def skipMany (reader : Reader) : Nat → Reader
  | 0 => reader
  | count + 1 => reader.skip.skipMany count

/-- The place at the start of the next line, some characters on. -/
def nextLine (mark : Mark) (width : Nat) : Mark := ⟨mark.index + width, mark.line + 1, 0⟩

/-- Moves over a line end and gives the line end that it stands for: most kinds stand for a line
feed, and there is nothing where none stands. -/
def readLine (reader : Reader) : List Char × Reader :=
  match reader.rest with
  | '\r' :: '\n' :: rest => (['\n'], ⟨rest, nextLine reader.mark 2⟩)
  | c :: rest =>
    if c == '\n' || c == '\r' || c == '\x85' then (['\n'], ⟨rest, nextLine reader.mark 1⟩)
    else if isBreak c then ([c], ⟨rest, nextLine reader.mark 1⟩)
    else ([], reader)
  | [] => ([], reader)

/-- Moves over a line end. -/
def skipLine (reader : Reader) : Reader := reader.readLine.2

/-- Moves over characters with a property, in one line; the fuel bounds their number. -/
def passFrom (property : Char → Bool) : Nat → List Char → Reader → List Char × Reader
  | 0, passed, reader => (passed.reverse, reader)
  | fuel + 1, passed, reader =>
    match reader.peek? with
    | none => (passed.reverse, reader)
    | some c =>
      if property c then passFrom property fuel (c :: passed) reader.skip
      else (passed.reverse, reader)

/-- Moves over all characters ahead that have a property; they must be no line ends. -/
def passWhile (reader : Reader) (property : Char → Bool) : List Char × Reader :=
  passFrom property reader.rest.length [] reader

/-- Moves over blanks. -/
def passBlanks (reader : Reader) : Reader := (reader.passWhile isBlank).2

/-- Moves over a comment. -/
def passComment (reader : Reader) : Reader :=
  if reader.sees '#' then (reader.passWhile (!isBreak ·)).2 else reader

/-- Whether a mark of a document stands at the start of the line. -/
def atDocumentMark (reader : Reader) : Bool :=
  reader.mark.column == 0 && reader.gapAt 3 &&
    (reader.rest.take 3 == ['-', '-', '-'] || reader.rest.take 3 == ['.', '.', '.'])

/-- Fails at the place that was reached, while something was being read that started at another. -/
def fail {α : Type} (reader : Reader) (context : Context) (start : Mark) (problem : Problem) :
    Except YamlFault α :=
  .error (.problem problem reader.mark (some (context, start)))

end Reader

end TagAudit.Yaml
