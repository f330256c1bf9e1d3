/-
**Settings files in JSON.**

The reader goes through the text once, from left to right, and stops at the first fault. The file
is an object with some of the keys, or a list of five values in the order of the keys.

* `JsonCause.words` words each cause; `JsonFault.message` adds line and column, which count the
  bytes read up to the fault;
* `readJsonSettings` reads a whole file.
-/

import TagAudit.Pattern.Name
import TagAudit.Settings.Keys
import TagAudit.Text.Decimal
import TagAudit.Text.Quoted

namespace TagAudit

/-- A value found where another kind was expected. -/
inductive JsonFound where
  | null
  | flag (value : Bool)
  | integer (negative : Bool) (magnitude : Nat)
  | fraction (value : Float)
  | text (value : String)
  | list
  | map

namespace JsonFound

/-- The words for a value that was found. -/
def words : JsonFound → String
  | null => "null"
  | flag true => "boolean `true`"
  | flag false => "boolean `false`"
  | integer negative magnitude =>
    "integer `" ++ (if negative then "-" else "") ++ toString magnitude ++ "`"
  | fraction value => "floating point `" ++ scientificText value ++ "`"
  | text value => "string " ++ quoted value
  | list => "sequence"
  | map => "map"

end JsonFound

/-- Why a JSON text is refused. -/
inductive JsonCause where
  | endInList
  | endInObject
  | endInString
  | endInValue
  | noColon
  | noCommaInList
  | noCommaInObject
  | badWord
  | noValue
  | badEscape
  | badNumber
  | numberTooLarge
  | controlInString
  | keyNotString
  | loneSurrogate
  | commaAtEnd
  | textAtEnd
  | hexEscapeEnds
  | wrongType (found : JsonFound) (expected : String)
  | unknownKey (name : String)
  | repeatedKey (key : SettingsKey)
  | tooFew (count : Nat)

namespace JsonCause

/-- The words for a cause. -/
def words : JsonCause → String
  | endInList => "EOF while parsing a list"
  | endInObject => "EOF while parsing an object"
  | endInString => "EOF while parsing a string"
  | endInValue => "EOF while parsing a value"
  | noColon => "expected `:`"
  | noCommaInList => "expected `,` or `]`"
  | noCommaInObject => "expected `,` or `\x7d`"
  | badWord => "expected ident"
  | noValue => "expected value"
  | badEscape => "invalid escape"
  | badNumber => "invalid number"
  | numberTooLarge => "number out of range"
  | controlInString => "control character (\\u0000-\\u001F) found while parsing a string"
  | keyNotString => "key must be a string"
  | loneSurrogate => "lone leading surrogate in hex escape"
  | commaAtEnd => "trailing comma"
  | textAtEnd => "trailing characters"
  | hexEscapeEnds => "unexpected end of hex escape"
  | wrongType found expected => "invalid type: " ++ found.words ++ ", expected " ++ expected
  | unknownKey name => unknownKeyText name
  | repeatedKey key => repeatedKeyText key
  | tooFew count =>
    "invalid length " ++ toString count ++ ", expected " ++ settingsExpected ++ " with 5 elements"

end JsonCause

/-- A fault: its cause, the text left when it was met, and how many bytes of that text had been
looked at. -/
structure JsonFault where
  cause : JsonCause
  rest : List Char
  ahead : Nat

/-- Line and column after a number of bytes; the column counts the bytes since the line began. -/
def bytePlace (bytes : List UInt8) : Nat × Nat :=
  let step (place : Nat × Nat) (byte : UInt8) : Nat × Nat :=
    if byte = 0x0a then (place.1 + 1, 0) else (place.1, place.2 + 1)
  bytes.foldl step (1, 0)

namespace JsonFault

/-- The words of a fault in the given text, with its place. -/
def message (fault : JsonFault) (text : List Char) : String :=
  let bytes := textBytes text
  let read := bytes.length - (textBytes fault.rest).length + fault.ahead
  let (line, column) := bytePlace (bytes.take read)
  fault.cause.words ++ " at line " ++ toString line ++ " column " ++ toString column

end JsonFault

namespace JsonFile

/-- A fault at what has been read. -/
def failAt {α : Type} (cause : JsonCause) (rest : List Char) : Except JsonFault α :=
  .error ⟨cause, rest, 0⟩

/-- A fault at the next byte. -/
def failNext {α : Type} (cause : JsonCause) (rest : List Char) : Except JsonFault α :=
  .error ⟨cause, rest, 1⟩

/-- Blanks between tokens. -/
def isBlank (c : Char) : Bool := c == ' ' || c == '\n' || c == '\t' || c == '\r'

/-- The text without the blanks at its start. -/
def skipBlanks (text : List Char) : List Char := text.dropWhile isBlank

/-- The value of a hexadecimal digit. -/
def hexValue? (c : Char) : Option Nat :=
  if '0' ≤ c ∧ c ≤ '9' then some (c.toNat - 0x30)
  else if 'a' ≤ c ∧ c ≤ 'f' then some (c.toNat - 0x57)
  else if 'A' ≤ c ∧ c ≤ 'F' then some (c.toNat - 0x37)
  else none

/-- The value of four hexadecimal digits. -/
def hexFour? (a b c d : Char) : Option Nat := do
  return (((← hexValue? a) * 16 + (← hexValue? b)) * 16 + (← hexValue? c)) * 16 + (← hexValue? d)

/-- The characters after `\u`: four digits, counted in bytes. -/
def readHex (text : List Char) : Except JsonFault (Nat × List Char) :=
  if (textBytes text).length < 4 then
    .error ⟨.endInString, [], 0⟩
  else
    match text with
    | a :: b :: c :: d :: rest =>
      match hexFour? a b c d with
      | some value => .ok (value, rest)
      | none => .error ⟨.badEscape, text, 4⟩
    | _ => .error ⟨.badEscape, text, 4⟩

/-- The character of a short escape. -/
def shortEscape? (c : Char) : Option Char :=
  match c with
  | '"' => some '"'
  | '\\' => some '\\'
  | '/' => some '/'
  | 'b' => some '\x08'
  | 'f' => some '\x0c'
  | 'n' => some '\n'
  | 'r' => some '\r'
  | 't' => some '\t'
  | _ => none

/-- A character from the two halves of a surrogate pair. -/
def pairChar (high low : Nat) : Char :=
  Char.ofNat ((high - 0xd800) * 0x400 + (low - 0xdc00) + 0x10000)

/-- The character of an escape whose `\u` has been read; a high surrogate needs a low one. -/
def readUnicode (text : List Char) : Except JsonFault (Char × List Char) := do
  let (first, rest) ← readHex text
  if 0xdc00 ≤ first ∧ first ≤ 0xdfff then failAt .loneSurrogate rest
  else if first < 0xd800 ∨ 0xdbff < first then return (Char.ofNat first, rest)
  else
    match rest with
    | [] => failAt .endInString []
    | '\\' :: rest =>
      match rest with
      | [] => failAt .endInString []
      | 'u' :: rest =>
        let (second, rest) ← readHex rest
        if second < 0xdc00 ∨ 0xdfff < second then failAt .loneSurrogate rest
        else return (pairChar first second, rest)
      | _ => failNext .hexEscapeEnds rest
    | _ => failNext .hexEscapeEnds rest

/-- The characters of a string whose opening quote has been read. The fuel bounds the number of
characters and is the length of the text. -/
def readString (fuel : Nat) (text : List Char) : Except JsonFault ((List Char) × List Char) :=
  match fuel, text with
  | _, [] => failAt .endInString []
  | 0, _ => failAt .endInString text
  | fuel + 1, c :: rest =>
    if c = '"' then .ok ([], rest)
    else if c = '\\' then
      match rest with
      | [] => failAt .endInString []
      | 'u' :: rest => do
        let (char, rest) ← readUnicode rest
        let (chars, rest) ← readString fuel rest
        return (char :: chars, rest)
      | escape :: after => do
        match shortEscape? escape with
        | some char =>
          let (chars, rest) ← readString fuel after
          return (char :: chars, rest)
        | none => failNext .badEscape rest
    else if c.toNat < 0x20 then failNext .controlInString text
    else do
      let (chars, rest) ← readString fuel rest
      return (c :: chars, rest)

/-- A string whose opening quote has been read. -/
def readText (text : List Char) : Except JsonFault (String × List Char) := do
  let (chars, rest) ← readString text.length text
  return (String.ofList chars, rest)

/-- The rest of a word whose first letter has been read. -/
def readWord (word : List Char) (text : List Char) : Except JsonFault (List Char) :=
  match word, text with
  | [], text => .ok text
  | _ :: _, [] => failAt .endInValue []
  | expected :: word, c :: rest =>
    if c = expected then readWord word rest else failNext .badWord text

/-- The decimal value of a list of digits. -/
def digitsValue (digits : List Char) : Nat :=
  digits.foldl (fun value c => value * 10 + (c.toNat - 0x30)) 0

/-- The powers of ten that can be multiplied in one step. -/
def largestPower : Nat := 308

/-- `significand * 10 ^ exponent` by single multiplications and divisions, or nothing if the
result is too large. -/
def scaled? (fuel : Nat) (value : Float) (exponent : Int) : Option Float :=
  if exponent.natAbs ≤ largestPower then
    let power := Float.ofScientific 1 false exponent.natAbs
    if 0 ≤ exponent then
      let product := value * power
      if product.isInf then none else some product
    else some (value / power)
  else if value == 0.0 then some value
  else if 0 ≤ exponent then none
  else
    match fuel with
    | 0 => some value
    | fuel + 1 =>
      scaled? fuel (value / Float.ofScientific 1 false largestPower) (exponent + largestPower)

/-- The largest significand that is kept exactly. -/
def significandLimit : Nat := Nat.pow 2 64

/-- The digits of a number as far as they fit into a significand, and how many are left over. -/
def takeSignificand (start : Nat) (digits : List Char) : Nat × List Char :=
  match digits with
  | [] => (start, [])
  | c :: rest =>
    let next := start * 10 + (c.toNat - 0x30)
    if next < significandLimit then takeSignificand next rest else (start, digits)

/-- A number with its sign and power of ten put together. -/
def fraction (negative : Bool) (significand : Nat) (exponent : Int) (rest : List Char) :
    Except JsonFault (JsonFound × List Char) :=
  match scaled? 10 (Float.ofNat significand) exponent with
  | some value => .ok (.fraction (if negative then -value else value), rest)
  | none => failAt .numberTooLarge rest

/-- The text behind the digit with which the value of the digits reaches the limit. -/
def afterOverflow (limit value : Nat) : List Char → List Char
  | [] => []
  | c :: rest =>
    let next := value * 10 + (c.toNat - 0x30)
    if limit ≤ next then rest else afterOverflow limit next rest

/-- The exponent of a number whose `e` has been read. -/
def readExponent (negative : Bool) (significand : Nat) (exponent : Int) (text : List Char) :
    Except JsonFault (JsonFound × List Char) :=
  let (down, text) := match text with
    | '+' :: rest => (false, rest)
    | '-' :: rest => (true, rest)
    | _ => (false, text)
  match text with
  | [] => failAt .endInValue []
  | c :: _ =>
    if !c.isDigit then failNext .badNumber text
    else
      let digits := text.takeWhile Char.isDigit
      let value := digitsValue digits
      let rest := text.dropWhile Char.isDigit
      if value < Nat.pow 2 31 then
        fraction negative significand (if down then exponent - value else exponent + value) rest
      else if significand = 0 || down then
        .ok (.fraction (if negative then -0.0 else 0.0), rest)
      else failAt .numberTooLarge (afterOverflow (Nat.pow 2 31) 0 text)

/-- What may follow the digits of a fraction. -/
def afterFraction (negative : Bool) (significand : Nat) (exponent : Int) (text : List Char) :
    Except JsonFault (JsonFound × List Char) :=
  match text with
  | 'e' :: rest => readExponent negative significand exponent rest
  | 'E' :: rest => readExponent negative significand exponent rest
  | _ => fraction negative significand exponent text

/-- The digits of a fraction whose point has been read. -/
def readFraction (negative : Bool) (significand : Nat) (exponent : Int) (text : List Char) :
    Except JsonFault (JsonFound × List Char) :=
  let digits := text.takeWhile Char.isDigit
  let rest := text.dropWhile Char.isDigit
  let (value, left) := takeSignificand significand digits
  let taken := digits.length - left.length
  if digits.isEmpty then
    if text.isEmpty then failAt .endInValue [] else failNext .badNumber text
  else afterFraction negative value (exponent - taken) rest

/-- A number whose minus sign, if any, has been read. -/
def readNumber (negative : Bool) (text : List Char) : Except JsonFault (JsonFound × List Char) :=
  match text with
  | [] => failAt .endInValue []
  | c :: after =>
    if !c.isDigit then failNext .badNumber text
    else if c = '0' && after.head?.any Char.isDigit then failNext .badNumber after
    else
      let digits := text.takeWhile Char.isDigit
      let rest := text.dropWhile Char.isDigit
      let (value, left) := takeSignificand 0 digits
      match rest with
      | '.' :: rest => readFraction negative value left.length rest
      | 'e' :: rest => readExponent negative value left.length rest
      | 'E' :: rest => readExponent negative value left.length rest
      | _ =>
        if !left.isEmpty then fraction negative value left.length rest
        else if !negative then .ok (.integer false value, rest)
        else if value = 0 || value > Nat.pow 2 63 then fraction true value 0 rest
        else .ok (.integer true value, rest)

/-- The fault for a value of the wrong kind; a scalar is read to its end first. -/
def wrongType {α : Type} (expected : String) (text : List Char) : Except JsonFault α :=
  let refuse (found : JsonFound) (rest : List Char) : Except JsonFault α :=
    failAt (.wrongType found expected) rest
  match text with
  | 'n' :: rest => do refuse .null (← readWord "ull".toList rest)
  | 't' :: rest => do refuse (.flag true) (← readWord "rue".toList rest)
  | 'f' :: rest => do refuse (.flag false) (← readWord "alse".toList rest)
  | '-' :: rest => do
    let (found, rest) ← readNumber true rest
    refuse found rest
  | '"' :: rest => do
    let (value, rest) ← readText rest
    refuse (.text value) rest
  | '[' :: _ => refuse .list text
  | '\x7b' :: _ => refuse .map text
  | c :: _ =>
    if c.isDigit then do
      let (found, rest) ← readNumber false text
      refuse found rest
    else failNext .noValue text
  | [] => failAt .endInValue []

/-- The value of a key; `null` leaves the key open. -/
def readValue (key : SettingsKey) (text : List Char) :
    Except JsonFault (SettingsValue × List Char) :=
  let text := skipBlanks text
  match text with
  | 'n' :: rest => do
    let rest ← readWord "ull".toList rest
    return (if key.takesFlag then .flag none else .text none, rest)
  | [] => failAt .endInValue []
  | c :: rest =>
    if key.takesFlag then
      if c = 't' then do return (.flag (some true), ← readWord "rue".toList rest)
      else if c = 'f' then do return (.flag (some false), ← readWord "alse".toList rest)
      else wrongType key.expected text
    else if c = '"' then do
      let (value, rest) ← readText rest
      return (.text (some value), rest)
    else wrongType key.expected text

/-- A fault of the keys of an object is placed behind the blanks that follow, and behind the
closing brace if that comes next. -/
def placeInObject (text : List Char) : List Char :=
  match skipBlanks text with
  | '\x7d' :: rest => rest
  | rest => rest

/-- Reads up to the next key of an object; `none` means that the closing brace comes next. -/
def nextKey (first : Bool) (text : List Char) : Except JsonFault (Option (List Char)) :=
  match skipBlanks text with
  | [] => failAt .endInObject []
  | '\x7d' :: _ => .ok none
  | ',' :: rest =>
    if first then failNext .keyNotString (skipBlanks text)
    else
      match skipBlanks rest with
      | '"' :: rest => .ok (some rest)
      | '\x7d' :: _ => failNext .commaAtEnd (skipBlanks rest)
      | [] => failAt .endInValue []
      | rest => failNext .keyNotString rest
  | '"' :: rest => if first then .ok (some rest) else failNext .noCommaInObject (skipBlanks text)
  | rest => if first then failNext .keyNotString rest else failNext .noCommaInObject rest

/-- The fields of an object whose opening brace has been read. The fuel bounds the number of
fields and is the length of the text. -/
def readFields (fuel : Nat) (first : Bool) (seen : List SettingsKey) (layer : Layer)
    (text : List Char) : Except JsonFault (Layer × List Char) :=
  match fuel with
  | 0 => failAt .endInObject text
  | fuel + 1 => do
    match ← nextKey first text with
    | none => return (layer, (skipBlanks text).tail)
    | some rest =>
      let (name, rest) ← readText rest
      match SettingsKey.ofName? name with
      | none => failAt (.unknownKey name) (placeInObject rest)
      | some key =>
        if seen.contains key then failAt (.repeatedKey key) (placeInObject rest)
        else
          match skipBlanks rest with
          | ':' :: rest =>
            let (value, rest) ← readValue key rest
            readFields fuel false (key :: seen) (layer.set key value) rest
          | [] => failAt .endInObject []
          | rest => failNext .noColon rest

/-- Reads up to the next item of a list; `none` means that the closing bracket comes next. -/
def nextItem (first : Bool) (text : List Char) : Except JsonFault (Option (List Char)) :=
  match skipBlanks text with
  | [] => failAt .endInList []
  | ']' :: _ => .ok none
  | ',' :: rest =>
    if first then .ok (some (skipBlanks text))
    else
      match skipBlanks rest with
      | ']' :: _ => failNext .commaAtEnd (skipBlanks rest)
      | [] => failAt .endInValue []
      | rest => .ok (some rest)
  | rest => if first then .ok (some rest) else failNext .noCommaInList rest

/-- The values of a list for the given keys. -/
def readItems (keys : List SettingsKey) (count : Nat) (layer : Layer) (text : List Char) :
    Except JsonFault (Layer × List Char) :=
  match keys with
  | [] => .ok (layer, text)
  | key :: keys => do
    match ← nextItem (count == 0) text with
    | none => failAt (.tooFew count) (skipBlanks text).tail
    | some rest =>
      let (value, rest) ← readValue key rest
      readItems keys (count + 1) (layer.set key value) rest

/-- The end of a list after its last value. -/
def endOfList (text : List Char) : Except JsonFault (List Char) :=
  match skipBlanks text with
  | ']' :: rest => .ok rest
  | ',' :: rest =>
    match skipBlanks rest with
    | ']' :: _ => failNext .commaAtEnd (skipBlanks rest)
    | [] => failAt .textAtEnd []
    | rest => failNext .textAtEnd rest
  | [] => failAt .endInList []
  | rest => failNext .textAtEnd rest

/-- The object or list that the file holds. -/
def readTop (text : List Char) : Except JsonFault (Layer × List Char) :=
  match skipBlanks text with
  | [] => failAt .endInValue []
  | '[' :: rest => do
    let (layer, rest) ← readItems SettingsKey.all 0 Layer.empty rest
    return (layer, ← endOfList rest)
  | '\x7b' :: rest => readFields (rest.length + 1) true [] Layer.empty rest
  | rest => wrongType settingsExpected rest

/-- The layer that a whole file gives. -/
def read (text : List Char) : Except JsonFault Layer := do
  let (layer, rest) ← readTop text
  match skipBlanks rest with
  | [] => return layer
  | rest => failNext .textAtEnd rest

end JsonFile

end TagAudit
