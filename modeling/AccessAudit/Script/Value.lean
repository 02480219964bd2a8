import AccessAudit.Number.Numeral
import AccessAudit.Text.Ascii
import AccessAudit.Text.Blank

/-!
# Script values

The values an attribute can statically have, with the coercions of scripts: to a truth value,
to a number and to a text.
-/

namespace AccessAudit

/-- A statically known value. -/
inductive Value where
  | string (text : String)
  | number (value : Number)
  | boolean (truth : Bool)
  | null
  | undefined
deriving DecidableEq, Repr

namespace Number

/-- Numbers in texts are positional at any size, whole ones have no point, and of two equally
near shortest decimals the greater one is taken. -/
def textLayout : Decimal.Layout where
  tie := .up
  positional := fun _ => true
  wholePoint := false

/-- Whole numbers of a magnitude below this bound are written as 64-bit integers. -/
def integerTextBound : Nat := 1000000000000000000000

/-- The text a number is coerced to. Whole numbers of a moderate size are clamped to a signed
64-bit integer and written as such, so negative zero has no sign; the others have the
shortest decimal that reads back. -/
def text : Number → String
  | .nan => "NaN"
  | .infinite negative => if negative then "-Infinity" else "Infinity"
  | .finite negative rank =>
    if isWhole rank && units rank < integerTextBound * unitsOfOne then
      toString (clampWord (integerPart negative rank))
    else
      String.ofList (Decimal.ofFinite textLayout negative rank)

/-- The number a text is coerced to: that of the numeral left after trimming blanks, and not a
number where there is none. -/
def ofText (text : String) : Number :=
  match Numeral.read? (Text.trimmed text.toList) with
  | some numeral => numeral.value
  | none => .nan

end Number

namespace Value

/-- The contents of a string. -/
def string? : Value → Option String
  | .string text => some text
  | _ => none

/-- The truth value of a boolean. -/
def boolean? : Value → Option Bool
  | .boolean truth => some truth
  | _ => none

/-- `null` or `undefined`. -/
def isNullish : Value → Bool
  | .null | .undefined => true
  | _ => false

/-- Whether a script takes the value for true. -/
def isTruthy : Value → Bool
  | .string text => text != ""
  | .number value => value != .nan && !value.isZero
  | .boolean truth => truth
  | .null | .undefined => false

/-- The number a script coerces the value to. -/
def toNumber : Value → Number
  | .string text => Number.ofText text
  | .number value => value
  | .boolean truth => Number.ofInt (if truth then 1 else 0)
  | .null => Number.zero
  | .undefined => .nan

/-- The text a script coerces the value to. -/
def text : Value → String
  | .string text => text
  | .number value => value.text
  | .boolean truth => if truth then "true" else "false"
  | .null => "null"
  | .undefined => "undefined"

end Value
end AccessAudit
