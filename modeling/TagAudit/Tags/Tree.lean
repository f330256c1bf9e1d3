/-
**Tag trees.**

A tag tree is written as its tags in order with `>` between them: `feature>story>label>tag`. The
empty text is no tree at all; any other text is a tree with one tag more than it has separators,
so that tags at the start, in the middle or at the end may be empty.

* `TagTree.parse?` reads the written form;
* `TagTree.text` writes it.
-/

namespace TagAudit

/-- The separator between the tags of a written tree. -/
def tagSeparator : Char := '>'

/-- The pieces of a text between the occurrences of `separator`, empty pieces included. -/
def pieces (separator : Char) : List Char → List (List Char)
  | [] => [[]]
  | c :: rest =>
    if c = separator then [] :: pieces separator rest
    else
      match pieces separator rest with
      | [] => [[c]]
      | first :: others => (c :: first) :: others

/-- The pieces written one after the other with the separator between them. -/
def joinPieces (separator : Char) : List (List Char) → List Char
  | [] => []
  | [piece] => piece
  | piece :: rest => piece ++ separator :: joinPieces separator rest

/-- The tags that a definition has to carry, in the order in which they are reported. -/
structure TagTree where
  tags : List String
deriving Repr, DecidableEq

namespace TagTree

/-- Reads a written tree; the empty text asks for nothing and is no tree. -/
def parse? (text : String) : Option TagTree :=
  if text.isEmpty then none
  else some ⟨(pieces tagSeparator text.toList).map String.ofList⟩

/-- The written form of a tree. -/
def text (tree : TagTree) : String :=
  String.ofList (joinPieces tagSeparator (tree.tags.map String.toList))

end TagTree

end TagAudit
