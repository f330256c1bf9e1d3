/-
**Quoted text in messages.**

A text shown in a message stands in double quotes. Characters that would not be seen, or that
would combine with the character before them, are written by their number.

* `quotedChar` writes a character, `quoted` a text.
-/

import TagAudit.Text.Printable

namespace TagAudit

/-- The written form of one character in quoted text. -/
def quotedChar (c : Char) : List Char :=
  if c = '"' then ['\\', '"']
  else if c = '\\' then ['\\', '\\']
  else if c = '\n' then ['\\', 'n']
  else if c = '\r' then ['\\', 'r']
  else if c = '\t' then ['\\', 't']
  else if c.toNat = 0 then ['\\', '0']
  else if isShown c then [c]
  else '\\' :: 'u' :: '\x7b' :: Nat.toDigits 16 c.toNat ++ ['\x7d']

/-- The text in double quotes. -/
def quoted (text : String) : String :=
  String.ofList ('"' :: text.toList.flatMap quotedChar ++ ['"'])

end TagAudit
