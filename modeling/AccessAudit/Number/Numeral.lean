import AccessAudit.Number.Decimal

/-!
# Numerals

The texts that scripts read as numbers: the empty text, integers to the base 16, 8 or 2 behind
`0x`, `0o` or `0b`, a signed `Infinity`, and signed decimals with an optional exponent. The last
are read as floating-point texts, whose own words for infinities and for no number are kept out.
`Numeral.read?` recognises one, and `Numeral.value` is the number it denotes.
-/

namespace AccessAudit

/-- A numeral, taken apart. -/
inductive Numeral where
  /-- Nothing at all, which denotes zero. -/
  | empty
  /-- Digits to a base, the most significant one first. -/
  | radix (base : Nat) (digits : List Nat)
  /-- A word for what is beyond all numbers, with its sign. -/
  | infinity (negative : Bool)
  /-- A word for what is no number. -/
  | nan
  /-- A decimal fraction with its sign. -/
  | decimal (negative : Bool) (magnitude : Decimal)
deriving DecidableEq, Repr

namespace Numeral

/-- The base a letter after a leading zero announces. -/
def base? : Char → Option Nat
  | 'x' | 'X' => some 16
  | 'o' | 'O' => some 8
  | 'b' | 'B' => some 2
  | _ => none

/-- The value of a digit, the letters from `a` on counting from ten in either case. -/
def digitValue? (c : Char) : Option Nat :=
  if '0' ≤ c && c ≤ '9' then some (c.toNat - '0'.toNat)
  else if 'a' ≤ c && c ≤ 'z' then some (c.toNat - 'a'.toNat + 10)
  else if 'A' ≤ c && c ≤ 'Z' then some (c.toNat - 'A'.toNat + 10)
  else none

/-- The value of a digit of a given base. -/
def digit? (base : Nat) (c : Char) : Option Nat :=
  (digitValue? c).filter (· < base)

/-- One or more digits of a base. -/
def radixDigits? (base : Nat) : List Char → Option (List Nat)
  | [] => none
  | chars => chars.mapM (digit? base)

/-- The natural number that decimal digits spell. -/
def decimalValue (digits : List Char) : Nat :=
  digits.foldl (fun value c => 10 * value + (c.toNat - '0'.toNat)) 0

/-- An optional sign, and what follows it. -/
def splitSign : List Char → Bool × List Char
  | '+' :: rest => (false, rest)
  | '-' :: rest => (true, rest)
  | chars => (false, chars)

/-- The exponent behind a mantissa: nothing, or a letter `e` and one or more digits with an
optional sign. -/
def exponent? : List Char → Option Int
  | [] => some 0
  | mark :: rest =>
    if mark = 'e' || mark = 'E' then
      let (negative, digits) := splitSign rest
      if digits.isEmpty || !digits.all Char.isDigit then none
      else if negative then some (-(decimalValue digits : Int))
      else some (decimalValue digits)
    else none

/-- A point and the digits behind it, if there is one, and what follows. -/
def splitFraction : List Char → List Char × List Char
  | '.' :: rest => rest.span Char.isDigit
  | chars => ([], chars)

/-- An unsigned decimal: digits with a point among or around them, and an exponent. -/
def decimal? (chars : List Char) : Option Decimal :=
  let (whole, afterWhole) := chars.span Char.isDigit
  let (fraction, afterFraction) := splitFraction afterWhole
  if whole.isEmpty && fraction.isEmpty then none
  else
    (exponent? afterFraction).map fun exponent =>
      ⟨decimalValue (whole ++ fraction), exponent - fraction.length⟩

/-- The words of floating-point texts, ignoring case. -/
def word? (negative : Bool) (chars : List Char) : Option Numeral :=
  let word := chars.map Char.toLower
  if word = "inf".toList || word = "infinity".toList then some (.infinity negative)
  else if word = "nan".toList then some .nan
  else none

/-- A floating-point text: an optional sign, and a decimal or a word. -/
def float? (chars : List Char) : Option Numeral :=
  let (negative, body) := splitSign chars
  match decimal? body with
  | some magnitude => some (.decimal negative magnitude)
  | none => word? negative body

/-- A character that decimals are written with. -/
def isDecimalChar (c : Char) : Bool :=
  c.isDigit || c == '+' || c == '-' || c == '.' || c == 'e' || c == 'E'

/-- A numeral with an optional sign: the word `Infinity`, spelled exactly so, or a floating-point
text that is written with the characters of decimals only. -/
def signed? (chars : List Char) : Option Numeral :=
  let (negative, body) := splitSign chars
  if body = "Infinity".toList then some (.infinity negative)
  else if body.isEmpty || !chars.all isDecimalChar then none
  else float? chars

/-- Take a numeral apart; blanks around it are no part of it. -/
def read? : List Char → Option Numeral
  | [] => some .empty
  | '0' :: letter :: rest =>
    match base? letter with
    | some base => (radixDigits? base rest).map (.radix base)
    | none => signed? ('0' :: letter :: rest)
  | chars => signed? chars

/-- A number with one more digit of a base written behind it, rounded to a number again. -/
def appendDigit (base : Nat) (number : Number) (digit : Nat) : Number :=
  match number with
  | .finite negative rank =>
    Number.ofUnits negative (Number.units rank * base + digit * Number.unitsOfOne) 1
  | other => other

/-- The number a numeral denotes. A decimal is rounded once; digits to another base are
gathered one by one, rounding each time. -/
def value : Numeral → Number
  | .empty => Number.zero
  | .radix base digits => digits.foldl (appendDigit base) Number.zero
  | .infinity negative => .infinite negative
  | .nan => .nan
  | .decimal negative magnitude => magnitude.toNumber negative

end Numeral
end AccessAudit
