/-
**The meaning of plain scalars.**

A plain scalar without a tag may stand for nothing, a flag or a number; all else is text.

* `PlainValue.ofText` is what a plain scalar stands for;
* `PlainValue.words` names it in a fault.
-/

import TagAudit.Text.Decimal
import TagAudit.Text.Quoted

namespace TagAudit.Yaml

/-- What a scalar can stand for. -/
inductive PlainValue where
  | nothing
  | flag (value : Bool)
  /-- An integer; wide ones do not fit into 64 bits. -/
  | integer (negative : Bool) (magnitude : Nat) (wide : Bool)
  | number (value : Float)
  | text (value : List Char)

namespace PlainValue

/-- Whether a scalar is a word for nothing. -/
def isNull (text : List Char) : Bool :=
  ["null", "Null", "NULL", "~"].contains (String.ofList text)

/-- The flag that a scalar stands for. -/
def flag? (text : List Char) : Option Bool :=
  if ["true", "True", "TRUE"].contains (String.ofList text) then some true
  else if ["false", "False", "FALSE"].contains (String.ofList text) then some false
  else none

/-- The value of a digit in a base. -/
def digit? (base : Nat) (c : Char) : Option Nat :=
  let value :=
    if c.isDigit then c.toNat - 48
    else if 'a' ≤ c && c ≤ 'z' then c.toNat - 87
    else if 'A' ≤ c && c ≤ 'Z' then c.toNat - 55
    else base
  if value < base then some value else none

/-- The value of some digits in a base; there must be one. -/
def digits? (base : Nat) (digits : List Char) : Option Nat :=
  if digits.isEmpty then none
  else digits.foldl (fun value c =>
    match value, digit? base c with
    | some value, some digit => some (value * base + digit)
    | _, _ => none) (some 0)

/-- The rest of a text behind another one that it starts with. -/
def behind? (start text : List Char) : Option (List Char) :=
  if start.isPrefixOf text then some (text.drop start.length) else none

/-- Whether a text is a zero with more digits behind it, which is no number. -/
def isPaddedNumber (text : List Char) : Bool :=
  let bare := if text.head? == some '-' || text.head? == some '+' then text.drop 1 else text
  1 < bare.length && bare.head? == some '0' && bare.all Char.isDigit

/-- The letters that announce other bases. -/
def bases : List (List Char × Nat) :=
  [("0x".toList, 16), ("0o".toList, 8), ("0b".toList, 2)]

/-- The value of a text in another base, if a zero and a letter announce one and its value is at
most a limit. -/
def based? (limit : Nat) (text : List Char) : Option Nat :=
  bases.findSome? fun (start, base) =>
    ((behind? start text).bind (digits? base)).filter (· ≤ limit)

/-- The value of an integer without a minus sign that is at most a limit. -/
def unsigned? (limit : Nat) (text : List Char) : Option Nat :=
  let bare := (behind? ['+'] text).getD text
  (based? limit bare).or <|
    if isPaddedNumber text then none else (digits? 10 bare).filter (· ≤ limit)

/-- The value of an integer with a minus sign, without the sign, that is at most a limit. -/
def negative? (limit : Nat) (text : List Char) : Option Nat := do
  let bare ← behind? ['-'] text
  (based? limit bare).or <|
    if isPaddedNumber text then none else (digits? 10 bare).filter (· ≤ limit)

/-- The integer that a scalar stands for, in 64 bits if it fits, else in 128. -/
def integer? (text : List Char) : Option PlainValue :=
  match unsigned? (Nat.pow 2 64 - 1) text, negative? (Nat.pow 2 63) text with
  | some value, _ => some (.integer false value false)
  | none, some value => some (.integer true value false)
  | none, none =>
    match unsigned? (Nat.pow 2 128 - 1) text, negative? (Nat.pow 2 127) text with
    | some value, _ => some (.integer false value true)
    | none, some value => some (.integer true value true)
    | none, none => none

/-- The parts of a decimal number: the digits before and behind the point, and the exponent. -/
structure DecimalParts where
  whole : List Char
  fraction : List Char
  exponent : Int

/-- The exponent of a number, 0 if there is none. -/
def exponent? (text : List Char) : Option Int :=
  match text with
  | [] => some 0
  | mark :: rest =>
    if mark == 'e' || mark == 'E' then
      match rest with
      | '-' :: digits => (digits? 10 digits).map fun value => -(value : Int)
      | '+' :: digits => (digits? 10 digits).map fun value => (value : Int)
      | digits => (digits? 10 digits).map fun value => (value : Int)
    else none

/-- The parts of a number without a sign; there must be a digit before or behind the point. -/
def decimalParts? (text : List Char) : Option DecimalParts := do
  let whole := text.takeWhile Char.isDigit
  let rest := text.dropWhile Char.isDigit
  let (fraction, rest) :=
    match rest with
    | '.' :: rest => (rest.takeWhile Char.isDigit, rest.dropWhile Char.isDigit)
    | rest => ([], rest)
  if whole.isEmpty && fraction.isEmpty then none
  else return ⟨whole, fraction, ← exponent? rest⟩

/-- Beyond this power of ten a number is too large, below its opposite too small. -/
def powerLimit : Int := 400

/-- The number that is nearest to some decimal parts, none if it is too large. -/
def nearest? (parts : DecimalParts) : Option Float :=
  let digits := (parts.whole ++ parts.fraction).dropWhile (· == '0')
  let exponent := parts.exponent - parts.fraction.length
  let lead := exponent + digits.length
  if digits.isEmpty || lead < -powerLimit then some 0.0
  else if powerLimit < lead then none
  else
    let value := (digits? 10 digits).getD 0
    let number := Float.ofScientific value (exponent < 0) exponent.natAbs
    if number.isInf then none else some number

/-- The number with a point or exponent that a scalar stands for. -/
def number? (text : List Char) : Option Float :=
  let bare := (behind? ['+'] text).getD text
  let isInfinite (text : List Char) : Bool :=
    [".inf", ".Inf", ".INF"].contains (String.ofList text)
  if isInfinite bare then some (1.0 / 0.0)
  else if (behind? ['-'] text).any isInfinite then some (-1.0 / 0.0)
  else if [".nan", ".NaN", ".NAN"].contains (String.ofList text) then some (0.0 / 0.0)
  else
    match behind? ['-'] text with
    | some bare => ((decimalParts? bare).bind nearest?).map (- ·)
    | none => (decimalParts? bare).bind nearest?

/-- What a plain scalar stands for. -/
def ofText (text : List Char) : PlainValue :=
  if text.isEmpty || isNull text then .nothing
  else
    match flag? text, integer? text with
    | some value, _ => .flag value
    | none, some value => value
    | none, none =>
      match (if isPaddedNumber text then none else number? text) with
      | some value => .number value
      | none => .text text

/-- The name of a value in a fault. -/
def words : PlainValue → String
  | .nothing => "unit value"
  | .flag value => "boolean `" ++ (if value then "true" else "false") ++ "`"
  | .integer negative magnitude wide =>
    "integer `" ++ (if negative && magnitude != 0 then "-" else "") ++ toString magnitude ++ "`" ++
      (if wide then (if negative then " as i128" else " as u128") else "")
  | .number value => "floating point `" ++ plainText value ++ "`"
  | .text value => "string " ++ quoted (String.ofList value)

end PlainValue

end TagAudit.Yaml
