/-
**Sets of tokens.**

A set of token numbers below 128, kept as two words of bits.

* `TokenSet.insert`, `TokenSet.contains`, `TokenSet.union` are the usual operations;
* `TokenSet.toList` lists the numbers in order.
-/

namespace TagAudit.Grammar

/-- A set of numbers below 128. -/
structure TokenSet where
  low : UInt64
  high : UInt64
deriving DecidableEq, Hashable, Inhabited, Repr

namespace TokenSet

/-- The set without members. -/
def empty : TokenSet := ⟨0, 0⟩

/-- The bit of a number within its word. -/
def bit (token : Nat) : UInt64 := (1 : UInt64) <<< token.toUInt64

/-- The set of one number. -/
def singleton (token : Nat) : TokenSet :=
  if token < 64 then ⟨bit token, 0⟩ else ⟨0, bit (token - 64)⟩

/-- The numbers of both sets. -/
def union (first second : TokenSet) : TokenSet :=
  ⟨first.low ||| second.low, first.high ||| second.high⟩

/-- The numbers that both sets have. -/
def inter (first second : TokenSet) : TokenSet :=
  ⟨first.low &&& second.low, first.high &&& second.high⟩

/-- The numbers of the first set that are not in the second. -/
def diff (first second : TokenSet) : TokenSet :=
  ⟨first.low &&& second.low.complement, first.high &&& second.high.complement⟩

/-- The set with one more number. -/
def insert (set : TokenSet) (token : Nat) : TokenSet := set.union (singleton token)

/-- The set without a number. -/
def erase (set : TokenSet) (token : Nat) : TokenSet := set.diff (singleton token)

/-- Whether the set has no members. -/
def isEmpty (set : TokenSet) : Bool := set.low == 0 && set.high == 0

/-- Whether a number is in the set. -/
def contains (set : TokenSet) (token : Nat) : Bool := !(set.inter (singleton token)).isEmpty

/-- The places of the bits that are set in a word, counted from a number on; the fuel is the
number of bits to look at. -/
def places (fuel : Nat) (word : UInt64) (place : Nat) : List Nat :=
  match fuel with
  | 0 => []
  | fuel + 1 =>
    if word == 0 then []
    else if word &&& 1 == 0 then places fuel (word >>> 1) (place + 1)
    else place :: places fuel (word >>> 1) (place + 1)

/-- The numbers in the set from the smallest to the largest. -/
def toList (set : TokenSet) : List Nat := places 64 set.low 0 ++ places 64 set.high 64

/-- Whether some number in the set has a property. -/
def any (set : TokenSet) (property : Nat → Bool) : Bool := set.toList.any property

/-- The set of the numbers in a list. -/
def ofList (tokens : List Nat) : TokenSet := tokens.foldl insert empty

end TokenSet

end TagAudit.Grammar
