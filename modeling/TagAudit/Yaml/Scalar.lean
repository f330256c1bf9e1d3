/-
**Scalars of YAML.**

A scalar is a text in one of five styles. In all of them lines are folded or kept by rules of
their own.

* `readQuoted` reads a scalar in single or double quotes;
* `readPlain` reads a scalar without quotes;
* `readBlock` reads a scalar that stands on lines of its own, literal or folded.
-/

import TagAudit.Yaml.Reader

namespace TagAudit.Yaml

/-- The style of a scalar. -/
inductive ScalarStyle where
  | plain
  | singleQuoted
  | doubleQuoted
  | literal
  | folded
deriving Repr, DecidableEq

/-- A scalar that was read: its text, where it ends, and the reader behind it. -/
structure ReadScalar where
  text : List Char
  stop : Mark
  reader : Reader

/-- White space between the words of a scalar: blanks in a line, or the first line end and those
behind it. -/
structure Gap where
  /-- Whether a line has ended. -/
  broken : Bool
  blanks : List Char
  firstBreak : List Char
  laterBreaks : List Char

namespace Gap

/-- No white space. -/
def none : Gap := ⟨false, [], [], []⟩

/-- The text that line ends come to: a single line feed becomes a space, further ones stay. -/
def folded (first later : List Char) : List Char :=
  if first == ['\n'] then (if later.isEmpty then [' '] else later) else first ++ later

/-- The text that white space comes to. -/
def text (gap : Gap) : List Char :=
  if gap.broken then folded gap.firstBreak gap.laterBreaks else gap.blanks

/-- One more line end. -/
def addBreak (gap : Gap) (lineEnd : List Char) : Gap :=
  if gap.broken then { gap with laterBreaks := gap.laterBreaks ++ lineEnd }
  else { gap with broken := true, blanks := [], firstBreak := lineEnd }

/-- One more blank; blanks at the start of a line are dropped. -/
def addBlank (gap : Gap) (blank : Char) : Gap :=
  if gap.broken then gap else { gap with blanks := gap.blanks ++ [blank] }

end Gap

/-- Reads white space. A tab before the given column of a later line is refused by `tab`; the fuel
bounds the number of characters. -/
def readGap (tab : Gap → Reader → Option YamlFault) :
    Nat → Gap → Reader → Except YamlFault (Gap × Reader)
  | 0, gap, reader => .ok (gap, reader)
  | fuel + 1, gap, reader =>
    match reader.peek? with
    | none => .ok (gap, reader)
    | some c =>
      if isBlank c then
        match tab gap reader with
        | some fault => .error fault
        | none => readGap tab fuel (gap.addBlank c) reader.skip
      else if isBreak c then
        let (lineEnd, reader) := reader.readLine
        readGap tab fuel (gap.addBreak lineEnd) reader
      else .ok (gap, reader)

/-! ### Quotes -/

/-- What an escape stands for: a character, or a code with some digits. -/
inductive Escape where
  | char (c : Char)
  | code (digits : Nat)

/-- The escape with a letter. -/
def escape? : Char → Option Escape
  | '0' => some (.char '\x00')
  | 'a' => some (.char '\x07')
  | 'b' => some (.char '\x08')
  | 't' => some (.char '\t')
  | '\t' => some (.char '\t')
  | 'n' => some (.char '\n')
  | 'v' => some (.char '\x0b')
  | 'f' => some (.char '\x0c')
  | 'r' => some (.char '\r')
  | 'e' => some (.char '\x1b')
  | ' ' => some (.char ' ')
  | '"' => some (.char '"')
  | '/' => some (.char '/')
  | '\\' => some (.char '\\')
  | 'N' => some (.char '\x85')
  | '_' => some (.char '\xa0')
  | 'L' => some (.char '\u2028')
  | 'P' => some (.char '\u2029')
  | 'x' => some (.code 2)
  | 'u' => some (.code 4)
  | 'U' => some (.code 8)
  | _ => none

/-- The value of hexadecimal digits. -/
def hexValue? : List Char → Option Nat
  | digits => digits.foldl (fun value digit =>
      match value, hexDigit? digit with
      | some value, some digit => some (value * 16 + digit)
      | _, _ => none) (some 0)

/-- Reads an escape behind a backslash; `start` is where the scalar starts. -/
def readEscape (start : Mark) (reader : Reader) : Except YamlFault (Char × Reader) :=
  match (reader.peekAt? 1).bind escape? with
  | none => reader.fail .quotedText start .badEscape
  | some (.char c) => .ok (c, reader.skipMany 2)
  | some (.code count) =>
    let reader := reader.skipMany 2
    let digits := reader.rest.take count
    match (if digits.length = count then hexValue? digits else none) with
    | none => reader.fail .quotedText start .badHex
    | some value =>
      if (0xD800 ≤ value && value ≤ 0xDFFF) || 0x10FFFF < value then
        reader.fail .quotedText start .badCodePoint
      else .ok (Char.ofNat value, reader.skipMany count)

/-- Reads the characters of a quoted scalar up to white space or the quote; tells whether an
escaped line end was met. The fuel bounds their number. -/
def readWord (single : Bool) (start : Mark) :
    Nat → List Char → Reader → Except YamlFault (List Char × Bool × Reader)
  | 0, text, reader => .ok (text, false, reader)
  | fuel + 1, text, reader =>
    match reader.peek? with
    | none => .ok (text, false, reader)
    | some c =>
      if isBlank c || isBreak c then .ok (text, false, reader)
      else if single && c == '\'' && reader.peekAt? 1 == some '\'' then
        readWord single start fuel (text ++ ['\'']) (reader.skipMany 2)
      else if c == (if single then '\'' else '"') then .ok (text, false, reader)
      else if !single && c == '\\' then
        if (reader.peekAt? 1).any isBreak then .ok (text, true, reader.skip.skipLine)
        else
          match readEscape start reader with
          | .error fault => .error fault
          | .ok (c, reader) => readWord single start fuel (text ++ [c]) reader
      else readWord single start fuel (text ++ [c]) reader.skip

/-- Reads a quoted scalar word by word; the fuel bounds their number. -/
def readQuotedFrom (single : Bool) (start : Mark) :
    Nat → List Char → Reader → Except YamlFault ReadScalar
  | 0, _, reader => reader.fail .quotedScalar start .endInScalar
  | fuel + 1, text, reader => do
    if reader.atDocumentMark then reader.fail .quotedScalar start .documentInScalar
    else if reader.atEnd then reader.fail .quotedScalar start .endInScalar
    else
      let (text, joined, reader) ← readWord single start reader.rest.length text reader
      if reader.sees (if single then '\'' else '"') then
        let reader := reader.skip
        return ⟨text, reader.mark, reader⟩
      else
        let (gap, reader) ← readGap (fun _ _ => none) reader.rest.length
          { Gap.none with broken := joined } reader
        readQuotedFrom single start fuel (text ++ gap.text) reader

/-- Reads a scalar in quotes. -/
def readQuoted (single : Bool) (reader : Reader) : Except YamlFault ReadScalar :=
  readQuotedFrom single reader.mark (reader.rest.length + 1) [] reader.skip

/-! ### Plain scalars -/

/-- A plain scalar on the way: the text so far, the white space behind it, and where it ends. -/
structure PlainScalar where
  text : List Char
  gap : Gap
  stop : Mark

/-- The signs that end a plain scalar between brackets. -/
def isFlowSign (c : Char) : Bool :=
  c == ',' || c == '[' || c == ']' || c == '\x7b' || c == '\x7d'

/-- Reads the characters of a plain scalar up to white space or a sign that ends it; the fuel
bounds their number. -/
def readPlainWord (inFlow : Bool) (start : Mark) :
    Nat → PlainScalar → Reader → Except YamlFault (PlainScalar × Reader)
  | 0, scalar, reader => .ok (scalar, reader)
  | fuel + 1, scalar, reader =>
    match reader.peek? with
    | none => .ok (scalar, reader)
    | some c =>
      if isBlank c || isBreak c then .ok (scalar, reader)
      else if inFlow && c == ':' &&
          (reader.peekAt? 1).any (fun next => isFlowSign next || next == '?') then
        reader.fail .plainScalar start .colonInPlain
      else if (c == ':' && reader.gapAt 1) || (inFlow && isFlowSign c) then .ok (scalar, reader)
      else
        let reader := reader.skip
        readPlainWord inFlow start fuel
          ⟨scalar.text ++ scalar.gap.text ++ [c], .none, reader.mark⟩ reader

/-- Reads a plain scalar word by word. It ends before a comment, before a mark of a document and,
outside of brackets, before a line that is not indented enough. The fuel bounds the number of
words. -/
def readPlainFrom (inFlow : Bool) (indent : Int) (start : Mark) :
    Nat → PlainScalar → Reader → Except YamlFault (PlainScalar × Reader)
  | 0, scalar, reader => .ok (scalar, reader)
  | fuel + 1, scalar, reader => do
    if reader.atDocumentMark || reader.sees '#' then return (scalar, reader)
    else
      let (scalar, reader) ← readPlainWord inFlow start reader.rest.length scalar reader
      if !reader.seesAny (fun c => isBlank c || isBreak c) then return (scalar, reader)
      else
        let tab (gap : Gap) (reader : Reader) : Option YamlFault :=
          if gap.broken && reader.mark.column < indent && reader.sees '\t' then
            some (.problem .tabInPlain reader.mark (some (.plainScalar, start)))
          else none
        let (gap, reader) ← readGap tab reader.rest.length scalar.gap reader
        let scalar := { scalar with gap := gap }
        if !inFlow && reader.mark.column < indent then return (scalar, reader)
        else readPlainFrom inFlow indent start fuel scalar reader

/-- Reads a plain scalar; also tells whether a line has ended behind it. -/
def readPlain (inFlow : Bool) (indent : Int) (reader : Reader) :
    Except YamlFault (ReadScalar × Bool) := do
  let start := reader.mark
  let (scalar, reader) ← readPlainFrom inFlow indent start (reader.rest.length + 1)
    ⟨[], .none, start⟩ reader
  return (⟨scalar.text, scalar.stop, reader⟩, scalar.gap.broken)

/-! ### Block scalars -/

/-- What happens to the line ends at the end of a block scalar. -/
inductive Chomping where
  | strip
  | clip
  | keep
deriving Repr, DecidableEq

/-- What stands behind the mark of a block scalar. -/
structure BlockHeader where
  chomping : Chomping
  /-- The additional indentation, if it is given. -/
  increment : Option Nat
  reader : Reader

/-- Reads a sign that tells what happens to line ends. -/
def readChomping? (reader : Reader) : Option (Chomping × Reader) :=
  if reader.sees '+' then some (.keep, reader.skip)
  else if reader.sees '-' then some (.strip, reader.skip)
  else none

/-- Reads the digit of an indentation. -/
def readIncrement (start : Mark) (reader : Reader) :
    Except YamlFault (Option Nat × Reader) :=
  match reader.peek? with
  | some c =>
    if c == '0' then reader.fail .blockScalar start .zeroIndent
    else if c.isDigit then .ok (some (c.toNat - 48), reader.skip)
    else .ok (none, reader)
  | none => .ok (none, reader)

/-- Reads what stands behind the mark of a block scalar, in either order. -/
def readBlockHeader (start : Mark) (reader : Reader) : Except YamlFault BlockHeader := do
  match readChomping? reader with
  | some (chomping, reader) =>
    let (increment, reader) ← readIncrement start reader
    return ⟨chomping, increment, reader⟩
  | none =>
    let (increment, reader) ← readIncrement start reader
    match increment, readChomping? reader with
    | some _, some (chomping, reader) => return ⟨chomping, increment, reader⟩
    | _, _ => return ⟨.clip, increment, reader⟩

/-- The blank lines before a line of a block scalar. -/
structure BlankLines where
  breaks : List Char
  /-- The largest indentation seen. -/
  deepest : Nat
  stop : Mark
  reader : Reader

/-- Moves over spaces up to a column, or over all of them if no column is known. -/
def passIndent (indent : Nat) : Nat → Reader → Reader
  | 0, reader => reader
  | fuel + 1, reader =>
    if (indent == 0 || reader.mark.column < indent) && reader.sees ' ' then
      passIndent indent fuel reader.skip
    else reader

/-- Reads blank lines up to a line with text; `indent` is 0 as long as it is not known. The fuel
bounds their number. -/
def readBlankLines (start : Mark) (indent : Nat) :
    Nat → BlankLines → Except YamlFault BlankLines
  | 0, found => .ok found
  | fuel + 1, found =>
    let reader := passIndent indent found.reader.rest.length found.reader
    let deepest := max found.deepest reader.mark.column
    if (indent == 0 || reader.mark.column < indent) && reader.sees '\t' then
      reader.fail .blockScalar start .tabInIndent
    else if reader.seesAny isBreak then
      let (lineEnd, reader) := reader.readLine
      readBlankLines start indent fuel ⟨found.breaks ++ lineEnd, deepest, reader.mark, reader⟩
    else .ok { found with deepest := deepest, reader := reader }

/-- Reads the blank lines at a reader. -/
def blankLinesAt (start : Mark) (indent : Nat) (reader : Reader) : Except YamlFault BlankLines :=
  readBlankLines start indent (reader.rest.length + 1) ⟨[], 0, reader.mark, reader⟩

/-- A block scalar on the way. -/
structure BlockScalar where
  text : List Char
  lineEnd : List Char
  /-- Whether the last line started with a blank. -/
  leadingBlank : Bool
  blankLines : BlankLines

/-- Reads the lines of a block scalar; the fuel bounds their number. In a folded one a line end
between two lines becomes a space unless a blank starts one of them. -/
def readLines (literal : Bool) (start : Mark) (indent : Nat) :
    Nat → BlockScalar → Except YamlFault BlockScalar
  | 0, scalar => .ok scalar
  | fuel + 1, scalar => do
    let reader := scalar.blankLines.reader
    if reader.mark.column ≠ indent || reader.atEnd then return scalar
    else
      let blank := reader.seesAny isBlank
      let breaks := scalar.blankLines.breaks
      let joint :=
        if !literal && scalar.lineEnd == ['\n'] && !scalar.leadingBlank && !blank then
          (if breaks.isEmpty then [' '] else [])
        else scalar.lineEnd
      let (line, reader) := reader.passWhile (!isBreak ·)
      let (lineEnd, reader) := reader.readLine
      let blankLines ← blankLinesAt start indent reader
      readLines literal start indent fuel
        ⟨scalar.text ++ joint ++ breaks ++ line, lineEnd, blank, blankLines⟩

/-- Reads a block scalar; `outer` is the indentation of the block around it, -1 for none. -/
def readBlock (literal : Bool) (outer : Int) (reader : Reader) : Except YamlFault ReadScalar := do
  let start := reader.mark
  let header ← readBlockHeader start reader.skip
  let reader := header.reader.passBlanks.passComment
  if !reader.atLineEnd then reader.fail .blockScalar start .noLineEnd
  else
    let reader := reader.skipLine
    let given :=
      match header.increment with
      | some increment => if 0 ≤ outer then outer.toNat + increment else increment
      | none => 0
    let blankLines ← blankLinesAt start given reader
    let indent :=
      if given ≠ 0 then given else max blankLines.deepest (max (outer + 1).toNat 1)
    let scalar ← readLines literal start indent (reader.rest.length + 1)
      ⟨[], [], false, blankLines⟩
    let tail :=
      match header.chomping with
      | .strip => []
      | .clip => scalar.lineEnd
      | .keep => scalar.lineEnd ++ scalar.blankLines.breaks
    return ⟨scalar.text ++ tail, scalar.blankLines.stop, scalar.blankLines.reader⟩

end TagAudit.Yaml
