/-
**Layout: lines, indentation and strings.**

Line ends, indentation and the text of strings depend on more than the characters at hand: on the
indentations that are open and on the strings that are being read. A `LayoutState` keeps both.
What the parser expects decides which of the layout's tokens are looked for.

* `Layout.scan` looks for a token of the layout at a cursor;
* `Layout.stringToken` reads the text or the end of a string;
* `Layout.blank` passes over white space, comments and joined lines and measures the indentation;
* `Layout.lineToken` decides on line ends, `Layout.openString` on the start of a string.
-/

import TagAudit.Source.Cursor

namespace TagAudit.Source

/-- The quotes and letters with which a string was opened. -/
structure Delimiter where
  formatted : Bool
  raw : Bool
  bytes : Bool
  triple : Bool
  /-- The code of the quote. -/
  quote : Nat
deriving DecidableEq, Inhabited, Repr

/-- The strings and indentations that are open, the innermost first. -/
structure LayoutState where
  /-- Whether the latest string token opened a formatted string. -/
  inFormatted : Bool
  strings : List Delimiter
  indents : List Nat
deriving DecidableEq, Inhabited, Repr

namespace LayoutState

/-- The state at the start of a source. -/
def initial : LayoutState := ⟨false, [], [0]⟩

/-- How many strings are remembered. -/
def stringLimit : Nat := 255

/-- How much room there is for a state: a string takes one unit, an indentation two, and two are
taken from the start. -/
def roomLimit : Nat := 1024

/-- The outermost members of a list with the innermost first. -/
def outermost {α : Type} (limit : Nat) (members : List α) : List α :=
  members.drop (members.length - limit)

/-- What is remembered of a state: the outermost strings, and the outermost indentations as far as
there is room. The indentation of the source as a whole takes none. -/
def remembered (state : LayoutState) : LayoutState :=
  let strings := outermost stringLimit state.strings
  let room := roomLimit - 2 - strings.length
  { state with strings := strings, indents := outermost ((room + 1) / 2 + 1) state.indents }

end LayoutState

/-- The tokens of the layout. -/
inductive LayoutToken where
  | newline
  | indent
  | dedent
  | stringStart
  | stringContent
  | escapedBrace
  | stringEnd
deriving DecidableEq, Repr

/-- The tokens of the layout that the parser expects, and two more facts about what it expects. -/
structure LayoutDemand where
  newline : Bool
  indent : Bool
  dedent : Bool
  stringStart : Bool
  stringContent : Bool
  escapedBrace : Bool
  /-- Some closing bracket can come. -/
  inBrackets : Bool
  /-- The word `except` can come. -/
  handler : Bool
deriving Inhabited, Repr

namespace LayoutDemand

/-- Where text of a string and an indentation are both expected, nothing is known of the place:
the parser is looking for a way out of an error. -/
def lost (demand : LayoutDemand) : Bool := demand.stringContent && demand.indent

/-- Whether some token at the start of a line is expected. -/
def lineStart (demand : LayoutDemand) : Bool :=
  demand.indent || demand.dedent || demand.newline || demand.handler

end LayoutDemand

namespace Layout

/-- A token of the layout, the state behind it and the cursor. -/
abbrev Found := LayoutToken × LayoutState × Cursor

/-- What looking for the text of a string comes to. -/
inductive TextResult where
  /-- A token was found. -/
  | found (found : Found)
  /-- There is no token of the layout here. -/
  | nothing
  /-- The source has ended; other tokens are still possible. -/
  | ended (cursor : Cursor)

/-- The code of an opening and of a closing brace. -/
def isBrace (code : Nat) : Bool := code == 123 || code == 125

/-- The backslash. -/
def backslash : Nat := 92

/-- A doubled brace in a formatted string. -/
def doubledBrace (state : LayoutState) (cursor : Cursor) : Option Found :=
  let second := cursor.mark.advance
  if second.ahead = cursor.ahead then some (.escapedBrace, state, second.advance.mark) else none

/-- The text up to the cursor's mark, if there is any. -/
def textSoFar (state : LayoutState) (hasText : Bool) (cursor : Cursor) : TextResult :=
  if hasText then .found (.stringContent, state, cursor) else .nothing

/-- The state behind the end of the innermost string. -/
def closeString (state : LayoutState) : LayoutState :=
  ⟨false, state.strings.drop 1, state.indents⟩

/-- A quote that may end the string; `hasText` tells that there is text before it. -/
def quoteToken (state : LayoutState) (string : Delimiter) (hasText : Bool) (cursor : Cursor) :
    TextResult :=
  let quoteAhead (cursor : Cursor) : Bool := cursor.ahead == string.quote
  let marked := cursor.mark
  if string.triple then
    let second := marked.advance
    if quoteAhead second then
      let third := second.advance
      if quoteAhead third then
        if hasText then .found (.stringContent, state, third)
        else .found (.stringEnd, closeString state, third.advance.mark)
      else .found (.stringContent, state, third.mark)
    else .found (.stringContent, state, second.mark)
  else if hasText then .found (.stringContent, state, marked)
  else .found (.stringEnd, closeString state, cursor.advance.mark)

/-- Moves over a backslash in a raw string and over what it guards. -/
def passRawEscape (quote : Nat) (cursor : Cursor) : Cursor :=
  let cursor := cursor.advance
  let cursor :=
    if cursor.ahead = quote || cursor.ahead = backslash then cursor.advance else cursor
  if cursor.ahead = 13 then
    let cursor := cursor.advance
    if cursor.ahead = 10 then cursor.advance else cursor
  else if cursor.ahead = 10 then cursor.advance
  else cursor

/-- The text or the end of a string. Text ends before an escape, before a brace in a formatted
string and before the closing quotes; the fuel bounds the length of the text. -/
def stringToken (state : LayoutState) (string : Delimiter) :
    Nat → Bool → Cursor → TextResult
  | 0, _, cursor => .ended cursor
  | fuel + 1, hasText, cursor =>
    if cursor.ahead = 0 then .ended cursor
    else if isBrace cursor.ahead && string.formatted then textSoFar state hasText cursor.mark
    else if cursor.ahead = backslash then
      if string.raw then stringToken state string fuel hasText (passRawEscape string.quote cursor)
      else if string.bytes then
        let next := cursor.mark.advance
        -- Bytes know no escapes by name or code point.
        if next.ahead = 78 || next.ahead = 117 || next.ahead = 85 then
          stringToken state string fuel true next.advance.advance
        else textSoFar state hasText next
      else textSoFar state hasText cursor.mark
    else if cursor.ahead = string.quote then quoteToken state string hasText cursor
    else if cursor.ahead = 10 && hasText && !string.triple then .nothing
    else stringToken state string fuel true cursor.advance

/-- What was found while passing over blanks: whether a line ended, the indentation, and that of
the first comment. -/
structure Blank where
  lineEnded : Bool
  indent : Nat
  firstComment : Option Nat
  cursor : Cursor

/-- Moves over a comment and the end of its line. -/
def skipComment : Nat → Cursor → Cursor
  | 0, cursor => cursor
  | fuel + 1, cursor =>
    if cursor.ahead = 0 || cursor.ahead = 10 then cursor.skip else skipComment fuel cursor.skip

/-- Passes over white space, over comments on lines of their own and over joined lines. A tab
counts for eight columns. There is no token of the layout before a comment that does not start its
line, nor before a stray backslash. The fuel bounds the number of characters. -/
def blank (demand : LayoutDemand) : Nat → Blank → Option Blank
  | 0, found => some found
  | fuel + 1, found =>
    let cursor := found.cursor
    let next := cursor.skip
    match cursor.ahead with
    | 10 => blank demand fuel { found with lineEnded := true, indent := 0, cursor := next }
    | 32 => blank demand fuel { found with indent := found.indent + 1, cursor := next }
    | 13 | 12 => blank demand fuel { found with indent := 0, cursor := next }
    | 9 => blank demand fuel { found with indent := found.indent + 8, cursor := next }
    | 35 =>
      if demand.lineStart then
        if found.lineEnded then
          blank demand fuel
            { found with
              firstComment := found.firstComment.or (some found.indent)
              indent := 0
              cursor := skipComment (cursor.left + 1) cursor }
        else none
      else some found
    | 92 =>
      let next := if next.ahead = 13 then next.skip else next
      if next.ahead = 10 || next.atEnd then
        blank demand fuel { found with cursor := next.skip }
      else none
    | _ => if cursor.atEnd then some { found with indent := 0, lineEnded := true } else some found

/-- Whether a quote stands ahead. -/
def quoteStands (cursor : Cursor) : Bool :=
  cursor.ahead == 34 || cursor.ahead == 39 || cursor.ahead == 96

/-- The token for the end of a line: a deeper indentation opens a block, a smaller one closes one,
otherwise a statement ends. A block is not closed inside of a formatted string, nor if the comments
behind it are indented like it. -/
def lineToken (demand : LayoutDemand) (state : LayoutState) (found : Blank) : Option Found :=
  let indent := found.indent % 65536
  let cursor := found.cursor
  let dedentFits :=
    demand.dedent ||
      (!demand.newline && !(demand.stringStart && quoteStands cursor) && !demand.inBrackets)
  let shallowComment (current : Nat) : Bool :=
    match found.firstComment with
    | none => true
    | some comment => comment < current
  match state.indents with
  | current :: outer =>
    if demand.indent && current < indent then
      some (.indent, { state with indents := indent :: current :: outer }, cursor)
    else if dedentFits && indent < current && !state.inFormatted && shallowComment current then
      some (.dedent, { state with indents := outer }, cursor)
    else statementEnd
  | [] => statementEnd
where
  /-- The end of a statement. -/
  statementEnd : Option Found :=
    if demand.newline && !demand.lost then some (.newline, state, found.cursor) else none

/-- Reads the letters before the quotes of a string; the fuel bounds their number. -/
def stringLetters : Nat → Delimiter → Cursor → Delimiter × Cursor
  | 0, string, cursor => (string, cursor)
  | fuel + 1, string, cursor =>
    match cursor.ahead with
    -- f and t
    | 70 | 102 | 84 | 116 => stringLetters fuel { string with formatted := true } cursor.advance
    -- r
    | 82 | 114 => stringLetters fuel { string with raw := true } cursor.advance
    -- b
    | 66 | 98 => stringLetters fuel { string with bytes := true } cursor.advance
    -- u
    | 85 | 117 => stringLetters fuel string cursor.advance
    | _ => (string, cursor)

/-- The start of a string: some letters and one or three quotes. -/
def openString (state : LayoutState) (cursor : Cursor) : Option Found :=
  let (string, cursor) := stringLetters (cursor.left + 1) ⟨false, false, false, false, 0⟩ cursor
  let opened (string : Delimiter) (cursor : Cursor) : Option Found :=
    some (.stringStart, ⟨string.formatted, string :: state.strings, state.indents⟩, cursor)
  if cursor.ahead = 96 then opened { string with quote := 96 } cursor.advance.mark
  else if cursor.ahead = 39 || cursor.ahead = 34 then
    let quote := cursor.ahead
    let string := { string with quote := quote }
    let second := cursor.advance.mark
    if second.ahead = quote then
      let third := second.advance
      if third.ahead = quote then opened { string with triple := true } third.advance.mark
      else opened string third
    else opened string second
  else none

/-- The token of the layout at the end of blanks. -/
def scanLine (demand : LayoutDemand) (state : LayoutState) (cursor : Cursor) : Option Found :=
  match blank demand (cursor.left + 1) ⟨false, 0, none, cursor.mark⟩ with
  | none => none
  | some found =>
    let line := if found.lineEnded then lineToken demand state found else none
    match line with
    | some token => some token
    | none =>
      if found.firstComment.isNone && demand.stringStart then openString state found.cursor
      else none

/-- The token of the layout at a cursor and the state behind it, if there is one among those
expected. -/
def findToken (demand : LayoutDemand) (state : LayoutState) (cursor : Cursor) : Option Found :=
  match state.strings with
  | [] => scanLine demand state cursor
  | string :: _ =>
    if demand.escapedBrace && isBrace cursor.ahead && !demand.lost && string.formatted then
      doubledBrace state cursor
    else if demand.stringContent && !demand.lost then
      match stringToken state string (cursor.left + 1) false cursor with
      | .found token => some token
      | .nothing => none
      | .ended cursor => scanLine demand state cursor
    else scanLine demand state cursor

/-- The token of the layout at a cursor, if there is one among those expected, and what is
remembered of the state behind it. -/
def scan (demand : LayoutDemand) (state : LayoutState) (cursor : Cursor) : Option Found :=
  (findToken demand state cursor).map fun (token, state, cursor) =>
    (token, state.remembered, cursor)

end Layout

end TagAudit.Source
