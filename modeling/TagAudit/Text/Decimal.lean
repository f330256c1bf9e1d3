/-
**The shortest decimal of a binary fraction.**

A binary64 number stands for all reals that round to it. Of the decimals in that interval the
shortest ones are taken, and of these the nearest.

* `Binary.ofFloat?` is the exact value `significand * 2 ^ exponent`;
* `Binary.shortest` gives the digits and the power of ten of the last digit;
* `Decimal.plain` writes all places, `Decimal.scientific` changes to an exponent for large and
  small numbers.
-/

namespace TagAudit

/-- The value `significand * 2 ^ exponent`. -/
structure Binary where
  significand : Nat
  exponent : Int
deriving Repr, DecidableEq

/-- The value `digits * 10 ^ exponent`. -/
structure Decimal where
  digits : Nat
  exponent : Int
deriving Repr, DecidableEq

namespace Binary

/-- The magnitude of a finite number. -/
def ofFloat? (value : Float) : Option Binary :=
  let bits := value.toBits.toNat
  let biased : Nat := bits / Nat.pow 2 52 % Nat.pow 2 11
  let fraction : Nat := bits % Nat.pow 2 52
  if biased = 2047 then none
  else if biased = 0 then some ⟨fraction, -1074⟩
  else some ⟨Nat.pow 2 52 + fraction, (biased : Int) - 1075⟩

/-- Four times the value as a quotient of natural numbers, and four times the halves of the gaps
to the neighbours below and above in units of the dividend. -/
structure Interval where
  middle : Nat
  below : Nat
  above : Nat
  divisor : Nat
deriving Repr

/-- The reals that round to the value. -/
def interval (value : Binary) : Interval :=
  let up := Nat.pow 2 value.exponent.toNat
  let down := Nat.pow 2 (-value.exponent).toNat
  let narrow := value.significand = Nat.pow 2 52 && value.exponent > -1074
  { middle := 4 * value.significand * up
    below := (if narrow then 1 else 2) * up
    above := 2 * up
    divisor := 4 * down }

/-- `10 ^ power` as a quotient. -/
def powerOfTen (power : Int) : Nat × Nat := (Nat.pow 10 power.toNat, Nat.pow 10 (-power).toNat)

/-- The power of ten of the leading digit: the largest `power` with `10 ^ power` at most the
value. The search goes up from below. -/
def leadingPower (range : Interval) (fuel : Nat) (power : Int) : Int :=
  match fuel with
  | 0 => power
  | fuel + 1 =>
    let (up, down) := powerOfTen (power + 1)
    if up * range.divisor ≤ range.middle * down then leadingPower range fuel (power + 1)
    else power

/-- The nearer of the two neighbours of the value among the multiples of `10 ^ power` that lies
in the interval; of two at the same distance the even one. -/
def onGrid? (range : Interval) (closed : Bool) (power : Int) : Option Nat :=
  let (up, down) := powerOfTen power
  let unit := up * range.divisor
  let middle := range.middle * down
  let low := middle / unit
  let high := low + 1
  let lowGap := middle - low * unit
  let highGap := high * unit - middle
  let fits (gap half : Nat) : Bool := if closed then gap ≤ half * down else gap < half * down
  let lowFits := low > 0 && fits lowGap range.below
  let highFits := fits highGap range.above
  if lowFits && highFits then
    if lowGap < highGap then some low
    else if highGap < lowGap then some high
    else if low % 2 = 0 then some low else some high
  else if lowFits then some low
  else if highFits then some high
  else none

/-- The first grid, from coarse to fine, that has a point in the interval. -/
def firstGrid (range : Interval) (closed : Bool) (fuel : Nat) (power : Int) : Decimal :=
  match fuel with
  | 0 => ⟨0, 0⟩
  | fuel + 1 =>
    match onGrid? range closed power with
    | some digits => ⟨digits, power⟩
    | none => firstGrid range closed fuel (power - 1)

/-- The shortest decimal that rounds to the value. -/
def shortest (value : Binary) : Decimal :=
  if value.significand = 0 then ⟨0, 0⟩
  else
    let range := value.interval
    let lead := leadingPower range 700 (-330)
    firstGrid range (value.significand % 2 = 0) 20 (lead + 1)

end Binary

namespace Decimal

/-- The decimal without zeros at its end. -/
def trimmed (fuel : Nat) (value : Decimal) : Decimal :=
  match fuel with
  | 0 => value
  | fuel + 1 =>
    if value.digits ≠ 0 && value.digits % 10 = 0 then
      trimmed fuel ⟨value.digits / 10, value.exponent + 1⟩
    else value

/-- Digits with the point behind the given number of them; missing places are zeros, and at least
one digit stands on either side. -/
def pointed (digits : List Char) (before : Int) : List Char :=
  if before ≤ 0 then
    '0' :: '.' :: List.replicate (-before).toNat '0' ++ digits
  else
    let places := before.toNat
    if digits.length ≤ places then
      digits ++ List.replicate (places - digits.length) '0' ++ ['.', '0']
    else digits.take places ++ '.' :: digits.drop places

/-- All places of the number, with at least one behind the point. -/
def plain (value : Decimal) : List Char :=
  if value.digits = 0 then "0.0".toList
  else
    let value := value.trimmed 400
    let digits := Nat.toDigits 10 value.digits
    pointed digits (digits.length + value.exponent)

/-- An exponent with its sign. -/
def exponentText (exponent : Int) : List Char :=
  'e' :: (if exponent < 0 then '-' else '+') :: Nat.toDigits 10 exponent.natAbs

/-- All places if the leading digit stands between the places `-5` and `15`, else the leading
digit, the others behind a point, and the exponent. -/
def scientific (value : Decimal) : List Char :=
  if value.digits = 0 then "0.0".toList
  else
    let value := value.trimmed 400
    let digits := Nat.toDigits 10 value.digits
    let lead := digits.length - 1 + value.exponent
    if -5 ≤ lead && lead ≤ 15 then pointed digits (lead + 1)
    else
      match digits with
      | first :: [] => first :: exponentText lead
      | first :: rest => first :: '.' :: rest ++ exponentText lead
      | [] => []

end Decimal

/-- The sign of a number, also of a zero. -/
def signText (value : Float) : List Char :=
  if value.toBits.toNat / Nat.pow 2 63 = 1 then ['-'] else []

/-- A number with all its places. -/
def plainText (value : Float) : String :=
  match Binary.ofFloat? value with
  | some binary => String.ofList (signText value ++ binary.shortest.plain)
  | none => if value.isNaN then "NaN" else String.ofList (signText value ++ "inf".toList)

/-- A number with an exponent if it is large or small. -/
def scientificText (value : Float) : String :=
  match Binary.ofFloat? value with
  | some binary => String.ofList (signText value ++ binary.shortest.scientific)
  | none => if value.isNaN then "NaN" else String.ofList (signText value ++ "inf".toList)

end TagAudit
