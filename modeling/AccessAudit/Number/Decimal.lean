import AccessAudit.Number.Basic

/-!
# Decimal numerals of numbers

`Decimal.shortest` finds the decimal with the fewest digits that still rounds to a given
finite magnitude, and among those the one nearest to it. For one, two, three and more digits it
tests the two neighbours of the magnitude on that decimal grid; the first grid on which one of them
rounds back gives the answer. Which of two equally near neighbours is taken is a decision of
the text that is written, as are the notation and the point: they are collected in `Layout`.
-/

namespace AccessAudit

/-- The decimal fraction `coefficient * 10 ^ exponent`. -/
structure Decimal where
  /-- The digits, read as one natural number. -/
  coefficient : Nat
  /-- The power of ten the coefficient is multiplied by. -/
  exponent : Int
deriving DecidableEq, Repr

namespace Decimal

/-- The number of decimal digits of a natural number. -/
def digitCount (value : Nat) : Nat :=
  (Nat.toDigits 10 value).length

/-- The number nearest to a decimal. Decimals far outside the range of the finite numbers are
told by their digit count, so that no power of ten is computed for them. -/
def toNumber (negative : Bool) (decimal : Decimal) : Number :=
  let magnitude := (digitCount decimal.coefficient : Int) + decimal.exponent
  if decimal.coefficient = 0 || magnitude < -330 then Number.ofRank negative 0
  else if 310 < magnitude then .infinite negative
  else
    match decimal.exponent with
    | .ofNat power => Number.ofRatio negative (decimal.coefficient * Nat.pow 10 power) 1
    | .negSucc power => Number.ofRatio negative decimal.coefficient (Nat.pow 10 (power + 1))

/-- Which of two equally near decimals is taken. -/
inductive Tie where
  /-- The greater one. -/
  | up
  /-- The one whose last digit is even. -/
  | even
deriving DecidableEq, Repr

/-- So many places behind the point are enough to tell all finite magnitudes apart. -/
def gridDepth : Nat := 324

/-- How many steps of the finest grid make one. -/
def gridScale : Nat := Nat.pow 10 gridDepth

/-- A step of the grid of a power of ten, in the units that `gridScale` divides. -/
def gridStep (power : Nat) : Nat := Number.unitsOfOne * Nat.pow 10 power

/-- The multiple of a grid step rounds to the rank. -/
def roundsBack (rank power multiple : Nat) : Bool :=
  Number.nearestRank (multiple * gridStep power) gridScale == rank

/-- The better of the two multiples of a step next to a value, if one is accepted: the multiple
below the value and the one above it are tried, and the nearer one wins. -/
def nearer? (tie : Tie) (accepted : Nat → Bool) (value step : Nat) : Option Nat :=
  let below := value / step
  match accepted below, accepted (below + 1) with
  | false, false => none
  | true, false => some below
  | false, true => some (below + 1)
  | true, true =>
    let twice := 2 * (value % step)
    if twice < step then some below
    else if step < twice then some (below + 1)
    else
      match tie with
      | .up => some (below + 1)
      | .even => some (below + below % 2)

/-- The better of the two multiples of a grid step next to a magnitude, if one rounds back. -/
def onGrid? (tie : Tie) (rank power : Nat) : Option Nat :=
  nearer? tie (roundsBack rank power) (Number.units rank * gridScale) (gridStep power)

/-- A coefficient without its trailing zeros, and how many of them there were. -/
def stripZeros : (fuel : Nat) → (coefficient : Nat) → Nat × Nat
  | 0, coefficient => (coefficient, 0)
  | fuel + 1, coefficient =>
    if coefficient % 10 = 0 then
      let (stripped, count) := stripZeros fuel (coefficient / 10)
      (stripped, count + 1)
    else (coefficient, 0)

/-- The decimal with no trailing zero that equals `coefficient * 10 ^ exponent`. -/
def normalize (coefficient : Nat) (exponent : Int) : Decimal :=
  let (stripped, count) := stripZeros (digitCount coefficient - 1) coefficient
  ⟨stripped, exponent + count⟩

/-- The shortest decimal that rounds to the magnitude of a rank. -/
def shortest (tie : Tie) (rank : Nat) : Decimal :=
  let whole := Number.units rank * gridScale / Number.unitsOfOne
  let length := digitCount whole
  let candidate? (index : Nat) : Option Decimal :=
    let power := length - (index + 1)
    (onGrid? tie rank power).map fun multiple => normalize multiple (power - gridDepth : Int)
  if rank = 0 then ⟨0, 0⟩
  else ((List.range length).findSome? candidate?).getD (normalize whole (-gridDepth))

/-- How a decimal is written out. -/
structure Layout where
  /-- How ties between two shortest decimals are settled. -/
  tie : Tie
  /-- Whether a decimal whose leading digit stands for this power of ten is written positionally
  rather than with an exponent. -/
  positional : Int → Bool
  /-- Whether whole decimals in positional notation end in a point and a zero. -/
  wholePoint : Bool

/-- Zeros in a row. -/
def zeros (count : Nat) : List Char :=
  List.replicate count '0'

/-- The characters of a decimal in a given layout. -/
def render (layout : Layout) (decimal : Decimal) : List Char :=
  let digits := Nat.toDigits 10 decimal.coefficient
  let pointAt := (digits.length : Int) + decimal.exponent
  if layout.positional (pointAt - 1) then
    if 0 ≤ decimal.exponent then
      digits ++ zeros decimal.exponent.toNat ++ (if layout.wholePoint then ['.', '0'] else [])
    else if 0 < pointAt then
      digits.take pointAt.toNat ++ '.' :: digits.drop pointAt.toNat
    else
      '0' :: '.' :: zeros (-pointAt).toNat ++ digits
  else
    let exponent := pointAt - 1
    let mantissa :=
      match digits with
      | [] => []
      | [digit] => [digit]
      | digit :: rest => digit :: '.' :: rest
    mantissa ++ 'e' :: (if exponent < 0 then '-' else '+') :: Nat.toDigits 10 exponent.natAbs

/-- The characters of a finite number, the minus sign included, in a given layout. -/
def ofFinite (layout : Layout) (negative : Bool) (rank : Nat) : List Char :=
  (if negative then ['-'] else []) ++ render layout (shortest layout.tie rank)

end Decimal
end AccessAudit
