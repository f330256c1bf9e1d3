/-
**The next token of a reading.**

A reading asks for the next token with what its state expects. Where none of that comes, every
token of the language is tried; where there is no token at all, text is left out up to the next
one and counts as an error.

* `nextToken` gives the next token of a reading as a tree.
-/

import TagAudit.Parse.Language
import TagAudit.Parse.Stack

namespace TagAudit.Parse

open Grammar Source

/-- Where a reading stands and what it expects. -/
structure Request where
  state : Nat
  start : Extent
  layout : Option LayoutState
  /-- Whether the reading has moved on since its last error. -/
  moved : Bool

/-- The search for a token: the state whose tokens are tried, the text left out so far, and the
cursor. -/
structure Search where
  tried : Nat
  skipped : Option (Extent × Extent)
  cursor : Cursor

/-- A token that was found. -/
inductive FoundToken where
  | layout (token : Nat) (state : LayoutState) (cursor : Cursor)
  | plain (token : Nat) (cursor : Cursor)
  /-- Text that is no token. -/
  | noToken (start stop : Extent)

variable (language : Language)

/-- Whether a token of the layout without text leads anywhere: it has to take the reading to
another state, and not right behind an error. -/
def emptyTokenHelps (request : Request) (tried token : Nat) : Bool :=
  let next := language.target request.state token
  tried != 0 && request.moved && next != request.state

/-- The token of the layout at a cursor, if there is one that helps. -/
def layoutTokenAt (request : Request) (tried : Nat) (cursor : Cursor) :
    Option (Nat × LayoutState × Cursor) :=
  let demand := language.demands.getD tried default
  match Layout.scan demand (request.layout.getD .initial) cursor.begin with
  | none => none
  | some (token, layout, found) =>
    let found := found.finish
    let number := language.layoutNumber token
    let isEmpty := found.stopPosition.bytes ≤ cursor.position.bytes
    if isEmpty && request.layout == some layout && !emptyTokenHelps language request tried number
    then none
    else some (number, layout, found)

/-- Searches for a token; the fuel bounds how much text is left out. -/
def searchToken (request : Request) : Nat → Search → FoundToken
  | 0, search => .noToken search.cursor.position search.cursor.position
  | fuel + 1, search =>
    match layoutTokenAt language request search.tried search.cursor with
    | some (token, layout, cursor) =>
      match search.skipped with
      | some (start, stop) => .noToken start stop
      | none => .layout token layout cursor
    | none =>
      let (token, cursor) :=
        language.lexicon.read (language.mode search.tried).vocabulary search.cursor.begin
      let cursor := cursor.finish
      match token, search.skipped with
      | some token, none => .plain token cursor
      | some _, some (start, stop) => .noToken start stop
      | none, skipped =>
        if search.tried ≠ 0 then
          searchToken request fuel { search with tried := 0, cursor := cursor.moveTo request.start }
        else
          let (start, stop) := skipped.getD (cursor.start, cursor.start)
          if cursor.position.bytes = stop.bytes then
            if cursor.atEnd then .noToken start stop
            else
              let cursor := cursor.advance
              searchToken request fuel
                { search with skipped := some (start, cursor.position), cursor := cursor }
          else
            searchToken request fuel
              { search with skipped := some (start, cursor.position), cursor := cursor }

/-- The bytes of a source between two indices. -/
def bytesBetween (source : ByteArray) (first last : Nat) : List Nat :=
  (source.extract first last).toList.map (·.toNat)

/-- The keyword with the text of a word, if there is one. -/
def keywordAt? (cursor : Cursor) : Option Nat :=
  language.lexicon.keywords[
    bytesBetween cursor.source cursor.start.bytes cursor.stopPosition.bytes]?

/-- The tree of a token. A word that is a keyword is taken for one if the state expects it, or if
it can be no name there. -/
def tokenTree (request : Request) : FoundToken → Tree
  | .noToken start stop =>
    Tree.leaf language.table.symbols .error (start.sub request.start) (stop.sub start)
  | .layout token layout cursor =>
    let tree := leafAt token cursor
    .mk { tree.summary with
      layout := some layout, layoutChanged := request.layout != some layout } tree.parts
  | .plain token cursor =>
    if token = wordToken then
      match keywordAt? language cursor with
      | none => leafAt token cursor
      | some keyword =>
        let expected := !(language.actions request.state keyword).isEmpty
        let taken := expected || language.isReserved request.state keyword
        let tree := leafAt (if taken then keyword else token) cursor
        .mk { tree.summary with keyword := true } tree.parts
    else leafAt token cursor
where
  /-- The tree of a token between the start and the end of a cursor. -/
  leafAt (token : Nat) (cursor : Cursor) : Tree :=
    Tree.leaf language.table.symbols (.known token) (cursor.start.sub request.start)
      (cursor.stopPosition.sub cursor.start)

/-- The next token of a reading. -/
def nextToken (source : Cursor) (request : Request) : Tree :=
  let search : Search := ⟨request.state, none, source.moveTo request.start⟩
  tokenTree language request
    (searchToken language request (search.cursor.left + 3) search)

end TagAudit.Parse
