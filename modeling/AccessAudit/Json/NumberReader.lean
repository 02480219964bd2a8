import AccessAudit.Json.Basic
import AccessAudit.Number.Numeral

/-!
# Reading JSON numbers

A number is first taken apart into its digits and then valued. The digits are gathered into an
unsigned 64-bit significand as long as they fit; the digits that do not fit count for their
place only. A number with a point or an exponent, or outside the 64-bit integers, is the
significand rounded to a script number and then multiplied or divided once by a rounded power
of ten. This takes up to two roundings, so it need not be the number nearest to the numeral.
-/

namespace AccessAudit
namespace Json

/-- A number as it is written. -/
structure NumberText where
  negative : Bool
  whole : List Char
  /-- The digits behind the point, if there is one. -/
  fraction : Option (List Char)
  /-- The sign and the digits of the exponent, if there is one. -/
  exponent : Option (Bool × List Char)

namespace NumberText

/-- The greatest significand. -/
def significandBound : Nat := 0xffffffffffffffff

/-- The greatest exponent that is told apart from greater ones. -/
def exponentBound : Nat := 0x7fffffff

/-- Gather digits into a significand while they fit, and return those that are left. -/
def gather (significand : Nat) : List Char → Nat × List Char
  | [] => (significand, [])
  | c :: rest =>
    let extended := significand * 10 + (c.toNat - '0'.toNat)
    if extended ≤ significandBound then gather extended rest else (significand, c :: rest)

/-- The rank of a power of ten. -/
def tenRank (power : Nat) : Nat :=
  Number.nearestRank (Nat.pow 10 power * Number.unitsOfOne) 1

/-- The greatest power of ten that is a finite number. -/
def greatestPower : Nat := 308

/-- The rank of a magnitude divided by a power of ten. -/
def divideByTen (rank power : Nat) : Nat :=
  Number.nearestRank (Number.units rank * Number.unitsOfOne) (Number.units (tenRank power))

/-- The rank of a magnitude divided by a power of ten of any size, in steps of finite powers. -/
def lowered (rank power : Nat) : Nat :=
  if power ≤ greatestPower then divideByTen rank power
  else if rank = 0 then 0
  else lowered (divideByTen rank greatestPower) (power - greatestPower)
termination_by power
decreasing_by simp [greatestPower] at *; omega

/-- The rank of a magnitude multiplied by a power of ten, unless it overflows. -/
def raised? (rank power : Nat) : Option Nat :=
  if rank = 0 then some 0
  else if greatestPower < power then none
  else
    let product := Number.nearestRank (Number.units rank * Number.units (tenRank power))
      Number.unitsOfOne
    if product < Number.rankBound then some product else none

/-- A significand times a power of ten, unless it overflows. -/
def scaled? (negative : Bool) (significand : Nat) (exponent : Int) : Option Number :=
  let rank := Number.nearestRank (significand * Number.unitsOfOne) 1
  match exponent with
  | .ofNat power => (raised? rank power).map (Number.ofRank negative)
  | .negSucc power => some (Number.ofRank negative (lowered rank (power + 1)))

/-- The number with its point and exponent, unless it overflows. -/
def real? (number : NumberText) : Option Number :=
  let (significand, dropped) := gather 0 number.whole
  let fraction := number.fraction.getD []
  let (significand, ignored) := gather significand fraction
  let start := (dropped.length : Int) - (fraction.length - ignored.length : Nat)
  match number.exponent with
  | none => scaled? number.negative significand start
  | some (negative, digits) =>
    let exponent := Numeral.decimalValue digits
    if exponentBound < exponent then
      if significand = 0 || negative then some (Number.ofRank number.negative 0) else none
    else
      scaled? number.negative significand
        (if negative then start - exponent else start + exponent)

/-- The value of a number, unless it overflows. Minus zero is no integer. -/
def value? (number : NumberText) : Option Json :=
  let whole := Numeral.decimalValue number.whole
  if number.fraction.isNone && number.exponent.isNone && !number.negative &&
      whole ≤ significandBound then
    some (.integer whole)
  else if number.fraction.isNone && number.exponent.isNone && number.negative &&
      0 < whole && whole ≤ Number.signBit then
    some (.integer (-(whole : Int)))
  else number.real?.map .real

/-- The digits before the point: a single zero, or digits that start with none. -/
def readWhole? (chars : List Char) : Option (List Char × List Char) :=
  match chars.span Char.isDigit with
  | ([], _) => none
  | ('0' :: _ :: _, _) => none
  | (digits, rest) => some (digits, rest)

/-- A point with one or more digits behind it, or nothing. -/
def readFraction? : List Char → Option (Option (List Char) × List Char)
  | '.' :: rest =>
    match rest.span Char.isDigit with
    | ([], _) => none
    | (digits, rest) => some (some digits, rest)
  | chars => some (none, chars)

/-- An exponent with one or more digits, or nothing. -/
def readExponent? : List Char → Option (Option (Bool × List Char) × List Char)
  | [] => some (none, [])
  | mark :: rest =>
    if mark = 'e' || mark = 'E' then
      let (negative, body) := Numeral.splitSign rest
      match body.span Char.isDigit with
      | ([], _) => none
      | (digits, rest) => some (some (negative, digits), rest)
    else some (none, mark :: rest)

/-- A number at the start of a text, and what follows it. -/
def read? (chars : List Char) : Option (NumberText × List Char) := do
  let (negative, body) :=
    match chars with
    | '-' :: rest => (true, rest)
    | _ => (false, chars)
  let (whole, rest) ← readWhole? body
  let (fraction, rest) ← readFraction? rest
  let (exponent, rest) ← readExponent? rest
  return (⟨negative, whole, fraction, exponent⟩, rest)

end NumberText
end Json
end AccessAudit
