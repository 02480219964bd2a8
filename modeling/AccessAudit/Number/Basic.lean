/-!
# Script numbers

A script number is a 64-bit binary floating-point number, all not-a-numbers identified.

The finite magnitudes are named by their *rank*: their position in the ascending list of
non-negative finite magnitudes, zero having rank zero. Every finite magnitude is a whole
multiple of the least positive one, so `Number.units` gives its exact value as a natural
number, and all arithmetic on numbers is arithmetic on natural numbers followed by
`Number.ofUnits`, which rounds to the nearest magnitude, a half going to the even rank.

The rank and the sign are also the word a number is stored in, see `Number.toWord`.
-/

namespace AccessAudit

/-- The ranks below this bound name the finite magnitudes. -/
abbrev Number.rankBound : Nat := 0x7ff0000000000000

/-- A script number. -/
inductive Number where
  /-- Not a number. -/
  | nan
  /-- An infinity of either sign. -/
  | infinite (negative : Bool)
  /-- A finite number: its sign, and the rank of its magnitude. -/
  | finite (negative : Bool) (rank : Fin Number.rankBound)
deriving DecidableEq, Repr

namespace Number

/-- The number of magnitudes between two neighbouring powers of two, the 52nd power of two. -/
def binadeSize : Nat := 0x10000000000000

/-- How many of the least positive magnitudes add up to the one of a given rank. The magnitudes
of the lowest `binadeSize` ranks are evenly spaced; from there on each binade doubles the
spacing of the one before. -/
def units (rank : Nat) : Nat :=
  if rank < binadeSize then rank
  else (binadeSize + rank % binadeSize) * Nat.pow 2 (rank / binadeSize - 1)

/-- How many of the least positive magnitudes make one. -/
def unitsOfOne : Nat := Nat.pow 2 1074

/-- The integer nearest to a quotient, a half going to the even one. -/
def roundHalfEven (numerator denominator : Nat) : Nat :=
  let quotient := numerator / denominator
  let remainder := numerator % denominator
  if 2 * remainder < denominator then quotient
  else if denominator < 2 * remainder then quotient + 1
  else quotient + quotient % 2

/-- The rank nearest to a magnitude given as a quotient of units. The quotient is rounded to
the spacing of its own binade; carrying into the next binade is then the successor rank. The
result may reach `rankBound`, which stands for overflow. -/
def nearestRank (numerator denominator : Nat) : Nat :=
  let shift := Nat.log2 (numerator / denominator) - 52
  shift * binadeSize + roundHalfEven numerator (denominator * Nat.pow 2 shift)

/-- The number of a given sign and rank, infinite from `rankBound` on. -/
def ofRank (negative : Bool) (rank : Nat) : Number :=
  if bounded : rank < rankBound then .finite negative ⟨rank, bounded⟩ else .infinite negative

/-- The number nearest to a quotient of units. -/
def ofUnits (negative : Bool) (numerator denominator : Nat) : Number :=
  ofRank negative (nearestRank numerator denominator)

/-- The number nearest to a quotient of natural numbers. -/
def ofRatio (negative : Bool) (numerator denominator : Nat) : Number :=
  ofUnits negative (numerator * unitsOfOne) denominator

/-- The number nearest to an integer. -/
def ofInt (value : Int) : Number :=
  ofRatio (decide (value < 0)) value.natAbs 1

/-- Positive zero. -/
def zero : Number := .finite false ⟨0, by decide⟩

/-- Negation flips the sign, of zero and the infinities too. -/
def neg : Number → Number
  | .nan => .nan
  | .infinite negative => .infinite (!negative)
  | .finite negative rank => .finite (!negative) rank

/-- Neither not-a-number nor infinite. -/
def isFinite : Number → Bool
  | .finite _ _ => true
  | _ => false

/-- Zero of either sign. -/
def isZero : Number → Bool
  | .finite _ rank => rank.val == 0
  | _ => false

/-- Strictly above zero; not-a-number is not. -/
def isPositive : Number → Bool
  | .nan => false
  | .infinite negative => !negative
  | .finite negative rank => !negative && rank.val != 0

/-- A finite magnitude without a fractional part. -/
def isWhole (rank : Nat) : Bool :=
  units rank % unitsOfOne == 0

/-- The integer part of a finite number: the fraction is dropped. -/
def integerPart (negative : Bool) (rank : Nat) : Int :=
  let whole := units rank / unitsOfOne
  if negative then -(whole : Int) else (whole : Int)

/-- Finite, and without a fractional part. -/
def isInteger : Number → Bool
  | .finite _ rank => isWhole rank
  | _ => false

/-- The nearest integer that fits a signed 64-bit word. -/
def clampWord (value : Int) : Int :=
  max (-0x8000000000000000) (min 0x7fffffffffffffff value)

/-- The bitwise complement on a 32-bit view: the integer part, clamped to a signed 64-bit
word, is reduced to the signed 32-bit integer congruent to it, whose complement is taken.
Numbers that are not finite are viewed as zero. -/
def complement : Number → Number
  | .finite negative rank =>
    ofInt (-(Int.bmod (clampWord (integerPart negative rank)) 0x100000000) - 1)
  | _ => ofInt (-1)

/-- The value of the sign bit in a 64-bit word. -/
def signBit : Nat := 0x8000000000000000

/-- The number of a 64-bit word: the top bit is the sign and the others the rank, the rank
`rankBound` being infinite and those above it not a number. -/
def ofWord (word : Nat) : Number :=
  let negative := decide (signBit ≤ word)
  let rank := word % signBit
  if rank ≤ rankBound then ofRank negative rank else .nan

/-- The 64-bit word of a number that is one. -/
def toWord? : Number → Option Nat
  | .nan => none
  | .infinite negative => some (rankBound + if negative then signBit else 0)
  | .finite negative rank => some (rank.val + if negative then signBit else 0)

end Number
end AccessAudit
