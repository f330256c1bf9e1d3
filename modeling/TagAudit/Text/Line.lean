/-
**Lines.**

* `firstLine` is a text up to the end of its first line.
-/

namespace TagAudit

/-- The characters of a text before its first line end. A carriage return right before a line feed
belongs to the line end. -/
def lineOf : List Char → List Char
  | [] => []
  | '\n' :: _ => []
  | '\r' :: '\n' :: _ => []
  | c :: rest => c :: lineOf rest

/-- The first line of a text. -/
def firstLine (text : String) : String := String.ofList (lineOf text.toList)

end TagAudit
