/-
**A cursor in a source.**

A cursor reads a source code point by code point. It keeps the position, the place where the
current token starts, and the place where it ends once that is known.

* `decodeAt` reads one code point of UTF-8; a byte that starts none counts as one of its own;
* `Cursor.advance` moves over the code point ahead, `Cursor.skip` leaves it out of the token;
* `Cursor.mark` ends the token at the position.
-/

import TagAudit.Source.Extent

namespace TagAudit.Source

/-- The number that stands for a byte outside of any code point. -/
def invalidCode : Nat := 0x110000

/-- The number of continuation bytes that a first byte asks for, and the value it carries. -/
def leadByte? (byte : Nat) : Option (Nat × Nat) :=
  if byte < 0xC2 then none
  else if byte < 0xE0 then some (1, byte - 0xC0)
  else if byte < 0xF0 then some (2, byte - 0xE0)
  else if byte < 0xF5 then some (3, byte - 0xF0)
  else none

/-- Whether the second byte of a code point may follow the first one: it rules out overlong forms,
surrogates and values beyond the last code point. -/
def secondByteFits (first second : Nat) : Bool :=
  match first with
  | 0xE0 => 0xA0 ≤ second
  | 0xED => second ≤ 0x9F
  | 0xF0 => 0x90 ≤ second
  | 0xF4 => second ≤ 0x8F
  | _ => true

/-- The value of the continuation bytes from an index on, added to what was read before. -/
def continuation? (source : ByteArray) : Nat → Nat → Nat → Option Nat
  | 0, _, value => some value
  | count + 1, index, value =>
    match source[index]? with
    | none => none
    | some byte =>
      if byte.toNat / 64 = 2 then
        continuation? source count (index + 1) (value * 64 + byte.toNat % 64)
      else none

/-- The code point at an index and the number of its bytes. -/
def decodeAt (source : ByteArray) (index : Nat) : Nat × Nat :=
  match source[index]? with
  | none => (0, 1)
  | some byte =>
    let first := byte.toNat
    if first < 128 then (first, 1)
    else
      match leadByte? first with
      | none => (invalidCode, 1)
      | some (count, value) =>
        let second := (source[index + 1]?.map (·.toNat)).getD 0
        match continuation? source count (index + 1) value with
        | some code => if secondByteFits first second then (code, count + 1) else (invalidCode, 1)
        | none => (invalidCode, 1)

/-- A place in a source and the token that is being read there. -/
structure Cursor where
  source : ByteArray
  position : Extent
  /-- Where the token starts. -/
  start : Extent
  /-- Where the token ends, if that is known. -/
  stop : Option Extent
  /-- The code point ahead, 0 at the end of the source, and the number of its bytes. -/
  ahead : Nat
  width : Nat

namespace Cursor

/-- The cursor at a position. -/
def moveTo (cursor : Cursor) (position : Extent) : Cursor :=
  let (ahead, width) := decodeAt cursor.source position.bytes
  { cursor with position := position, ahead := ahead, width := width }

/-- A cursor at the start of a source. -/
def ofSource (source : ByteArray) : Cursor :=
  moveTo ⟨source, .zero, .zero, none, 0, 1⟩ .zero

/-- Whether the whole source has been read. -/
def atEnd (cursor : Cursor) : Bool := cursor.source.size ≤ cursor.position.bytes

/-- How many bytes are left. -/
def left (cursor : Cursor) : Nat := cursor.source.size - cursor.position.bytes

/-- Moves over the code point ahead. -/
def advance (cursor : Cursor) : Cursor :=
  if cursor.atEnd then cursor
  else
    let width := if cursor.ahead = 10 then ⟨cursor.width, 1, 0⟩ else ⟨cursor.width, 0, cursor.width⟩
    cursor.moveTo (cursor.position.add width)

/-- Moves over the code point ahead, which does not belong to the token. -/
def skip (cursor : Cursor) : Cursor :=
  let moved := cursor.advance
  { moved with start := moved.position }

/-- Ends the token at the position. -/
def mark (cursor : Cursor) : Cursor := { cursor with stop := some cursor.position }

/-- Starts a token at the position. A byte order mark at the start of the source is left out. -/
def begin (cursor : Cursor) : Cursor :=
  let begun := { cursor with start := cursor.position, stop := none }
  if begun.position.bytes = 0 && begun.ahead = 0xFEFF then begun.skip else begun

/-- The token ends where it was marked, or else at the position; it cannot start behind its
end. -/
def finish (cursor : Cursor) : Cursor :=
  let stop := cursor.stop.getD cursor.position
  { cursor with
    stop := some stop
    start := if stop.bytes < cursor.start.bytes then stop else cursor.start }

/-- The end of the token. -/
def stopPosition (cursor : Cursor) : Extent := cursor.stop.getD cursor.position

end Cursor

end TagAudit.Source
