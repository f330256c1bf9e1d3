/-
**JSON values and their pretty form.**

* `Json` is a value whose objects keep the order of their fields;
* `Json.quote` writes a string: only the quote, the backslash and the characters below U+0020 are
  escaped;
* `Json.pretty` writes a value with an indent of two blanks per level, and `[]` or a pair of
  braces for an empty one.
-/

namespace TagAudit

/-- A JSON value without fractions. -/
inductive Json where
  | null
  | bool (value : Bool)
  | number (value : Nat)
  | string (value : String)
  | array (items : List Json)
  | object (fields : List (String × Json))

namespace Json

/-- A hexadecimal digit in lower case. -/
def hexDigit (value : Nat) : Char :=
  if value < 10 then Char.ofNat (0x30 + value) else Char.ofNat (0x61 + (value - 10))

/-- The written form of one character of a string. -/
def quoteChar (c : Char) : List Char :=
  if c = '"' then ['\\', '"']
  else if c = '\\' then ['\\', '\\']
  else if 0x20 ≤ c.toNat then [c]
  else if c.toNat = 0x08 then ['\\', 'b']
  else if c.toNat = 0x09 then ['\\', 't']
  else if c.toNat = 0x0a then ['\\', 'n']
  else if c.toNat = 0x0c then ['\\', 'f']
  else if c.toNat = 0x0d then ['\\', 'r']
  else ['\\', 'u', '0', '0', hexDigit (c.toNat / 16), hexDigit (c.toNat % 16)]

/-- The written form of a string. -/
def quote (text : List Char) : List Char := '"' :: text.flatMap quoteChar ++ ['"']

/-- A new line with the indent of the given level. -/
def newLine (level : Nat) : List Char := '\n' :: List.replicate (2 * level) ' '

/-- Items in brackets, each on a line of its own. -/
def bracketed (opening closing : Char) (level : Nat) (items : List (List Char)) : List Char :=
  match items with
  | [] => [opening, closing]
  | first :: others =>
    opening :: newLine (level + 1) ++ first ++
      others.flatMap (fun item => ',' :: newLine (level + 1) ++ item) ++ newLine level ++ [closing]

mutual

/-- The written form of a value that starts at the given level. -/
def write (level : Nat) : Json → List Char
  | .null => "null".toList
  | .bool true => "true".toList
  | .bool false => "false".toList
  | .number value => Nat.toDigits 10 value
  | .string value => quote value.toList
  | .array items => bracketed '[' ']' level (writeItems (level + 1) items)
  | .object fields => bracketed '\x7b' '\x7d' level (writeFields (level + 1) fields)

/-- The written forms of the items of an array. -/
def writeItems (level : Nat) : List Json → List (List Char)
  | [] => []
  | item :: rest => write level item :: writeItems level rest

/-- The written forms of the fields of an object. -/
def writeFields (level : Nat) : List (String × Json) → List (List Char)
  | [] => []
  | (key, value) :: rest =>
    (quote key.toList ++ ':' :: ' ' :: write level value) :: writeFields level rest

end

/-- The pretty form of a value. -/
def pretty (value : Json) : String := String.ofList (write 0 value)

end Json

end TagAudit
