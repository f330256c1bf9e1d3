/-
**Forms of tokens.**

A token that does not belong to the layout has a form: the texts it can have, and what decides
between it and another token with the same text. Characters that no form tells apart are of one
kind, so that forms speak about a few kinds only.

* `kindOf` is the kind of a code point;
* `TextForm` describes texts by kinds of characters;
* `formOf?` gives the form of a token.
-/

import TagAudit.Grammar.Rule
import TagAudit.Grammar.TokenSet
import TagAudit.Source.NameChar

namespace TagAudit.Lexical

open Grammar Source

/-! ### Kinds of characters -/

/-- A set of kinds of characters; kinds are numbered below 128, as tokens are. -/
abbrev KindSet := TokenSet

/-- The kind of characters that no form mentions, and of bytes outside of any code point. -/
def otherKind : Nat := 1

/-- The kind of the characters beyond ASCII that count as white space. -/
def blankKind : Nat := 2

/-- The kind of the characters beyond ASCII that can start a name. -/
def nameStartKind : Nat := 3

/-- The kind of the characters beyond ASCII that can only go on with a name. -/
def namePartKind : Nat := 4

/-- Whether a number is the code of a printable ASCII character, of a line end or of a tab. -/
def isPlainCode (code : Nat) : Bool := (9 ≤ code && code ≤ 13) || (32 ≤ code && code ≤ 126)

/-- The kind of a code point. The null character and those of `isPlainCode` are kinds of their
own, numbered by their codes. -/
def kindOf (code : Nat) : Nat :=
  if code = 0 || isPlainCode code then code
  else if code = 0xFEFF || code = 0x2060 || code = 0x200B then blankKind
  else if code < 128 then otherKind
  else if isNameStart code then nameStartKind
  else if isNamePart code then namePartKind
  else otherKind

/-- All kinds. -/
def allKinds : KindSet :=
  TokenSet.ofList ([0, otherKind, blankKind, nameStartKind, namePartKind] ++
    (List.range 128).filter isPlainCode)

/-- The white space that may stand before a token. -/
def blankKinds : KindSet :=
  TokenSet.ofList (blankKind :: 32 :: (List.range 14).filter isPlainCode)

/-- The kinds of the characters of a text. -/
def kindsOf (text : String) : KindSet := TokenSet.ofList (text.toList.map (·.toNat))

/-- The kinds of the characters that are not in a text. -/
def kindsBeyond (text : String) : KindSet := allKinds.diff (kindsOf text)

/-- The kinds of the characters between two ASCII characters. -/
def kindsBetween (first last : Char) : KindSet :=
  TokenSet.ofList ((List.range 128).filter fun code => first.toNat ≤ code && code ≤ last.toNat)

/-! ### Texts -/

/-- What the text of a token looks like. -/
inductive TextForm where
  /-- The empty text. -/
  | nothing
  /-- One character of some kinds. -/
  | one (kinds : KindSet)
  | seq (first second : TextForm)
  | either (first second : TextForm)
  /-- The same form one or more times. -/
  | many1 (part : TextForm)

namespace TextForm

/-- One form behind the other. -/
def inOrder (parts : List TextForm) : TextForm := parts.foldr seq nothing

/-- One of some forms. -/
def oneOf (first : TextForm) (others : List TextForm) : TextForm := others.foldl either first

/-- The form or nothing. -/
def opt (part : TextForm) : TextForm := either part nothing

/-- The form any number of times. -/
def many (part : TextForm) : TextForm := opt (many1 part)

/-- The form a number of times. -/
def times (count : Nat) (part : TextForm) : TextForm := inOrder (List.replicate count part)

/-- A given text. -/
def text (text : String) : TextForm :=
  inOrder (text.toList.map fun c => one (TokenSet.singleton c.toNat))

/-- One of the characters of a text. -/
def letter (letters : String) : TextForm := one (kindsOf letters)

/-- One of the characters between two others. -/
def between (first last : Char) : TextForm := one (kindsBetween first last)

/-- Decimal digits; each group of them may end with an underscore. -/
def digits : TextForm := many1 (seq (many1 (between '0' '9')) (opt (letter "_")))

/-- An exponent. -/
def exponent : TextForm := inOrder [letter "eE", opt (letter "+-"), digits]

/-- An integer in another base, which a zero and a letter announce; each group of digits may start
with an underscore. -/
def based (letters : String) (kinds : KindSet) : TextForm :=
  inOrder
    [text "0", letter letters, many1 (seq (opt (letter "_")) (many1 (one kinds))),
      opt (letter "Ll")]

/-- Hexadecimal digits. -/
def hexKinds : KindSet :=
  (kindsBetween '0' '9').union ((kindsBetween 'a' 'f').union (kindsBetween 'A' 'F'))

/-- An integer. -/
def integer : TextForm :=
  oneOf (based "xX" hexKinds)
    [based "oO" (kindsBetween '0' '7'), based "bB" (kindsBetween '0' '1'),
      seq digits (opt (letter "LljJ"))]

/-- A number with a point or an exponent. -/
def float : TextForm :=
  let whole := inOrder [digits, text ".", opt digits, opt exponent]
  let fraction := inOrder [opt digits, text ".", digits, opt exponent]
  seq (oneOf whole [fraction, seq digits exponent]) (opt (letter "jJ"))

/-- A name. -/
def name : TextForm :=
  let letters := (kindsBetween 'a' 'z').union ((kindsBetween 'A' 'Z').union (kindsOf "_"))
  let starts := letters.insert nameStartKind
  seq (one starts) (many (one ((starts.union (kindsBetween '0' '9')).insert namePartKind)))

/-- The end of a line. -/
def lineEnd : TextForm := seq (opt (letter "\r")) (letter "\n")

/-- An escape: a backslash with a code, a line end, a letter or a name. -/
def escape : TextForm :=
  let code (count : Nat) : TextForm := times count (one hexKinds)
  let digit := between '0' '9'
  seq (letter "\\") (oneOf (seq (letter "u") (code 4))
    [seq (letter "U") (code 8), seq (letter "x") (code 2),
      inOrder [digit, opt digit, opt digit], lineEnd, letter "'\"abfrntv\\",
      inOrder [text "N\x7b", many1 (one (kindsBeyond "\x7d")), text "\x7d"]])

/-- A backslash at the end of a line or before a null character. -/
def joinedLine : TextForm := seq (letter "\\") (either lineEnd (one (TokenSet.singleton 0)))

end TextForm

/-! ### Forms -/

/-- The form of a token. -/
structure Form where
  text : TextForm
  /-- A token of a higher priority wins, even over a longer one. -/
  priority : Nat
  /-- Of two tokens with the same text and priority the one of higher rank wins. -/
  rank : Nat
  /-- Whether white space may stand before the token. -/
  spaced : Bool

/-- The form of a token; those of the layout have none. -/
def formOf? : Terminal → Option Form
  | .literal text => some ⟨.text text, 0, 2, true⟩
  | .handlerStar => some ⟨.text "*", 1, 2, true⟩
  | .word => some ⟨.name, 0, 0, true⟩
  | .integer => some ⟨.integer, 0, 0, true⟩
  | .float => some ⟨.float, 0, 0, true⟩
  | .escapeSequence => some ⟨.escape, 1, 1, false⟩
  | .bareBackslash => some ⟨.letter "\\", 0, 3, false⟩
  | .formatText => some ⟨.many1 (.one (kindsBeyond "\x7b\x7d\n")), 1, 0, true⟩
  | .conversion => some ⟨.seq (.letter "!") (.between 'a' 'z'), 0, 0, true⟩
  | .comment => some ⟨.seq (.letter "#") (.many (.one (kindsBeyond "\n"))), 0, 0, true⟩
  | .lineContinuation => some ⟨.joinedLine, 0, 0, true⟩
  | .endOfSource | .newline | .indent | .dedent | .stringStart | .stringContent | .escapedBrace
  | .stringEnd => none

end TagAudit.Lexical
