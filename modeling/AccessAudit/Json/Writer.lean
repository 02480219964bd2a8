import AccessAudit.Json.Basic

/-!
# Writing JSON

The compact text of a value: no blanks, members in the order the object lists them, and no
escapes beyond the mandatory ones.
-/

namespace AccessAudit
namespace Json

/-- A lower-case hexadecimal digit. -/
def hexDigit (value : Nat) : Char :=
  if value < 10 then Char.ofNat ('0'.toNat + value) else Char.ofNat ('a'.toNat + (value - 10))

/-- A character inside a quoted string: quote, backslash and control characters are escaped. -/
def escape (c : Char) : List Char :=
  if c = '"' then ['\\', '"']
  else if c = '\\' then ['\\', '\\']
  else if c = '\x08' then ['\\', 'b']
  else if c = '\t' then ['\\', 't']
  else if c = '\n' then ['\\', 'n']
  else if c = '\x0c' then ['\\', 'f']
  else if c = '\r' then ['\\', 'r']
  else if c.toNat < 0x20 then
    ['\\', 'u', '0', '0', hexDigit (c.toNat / 16), hexDigit (c.toNat % 16)]
  else [c]

/-- A string between quotes. -/
def quote (text : String) : String :=
  String.ofList ('"' :: text.toList.flatMap escape ++ ['"'])

/-- Numbers are positional from `0.00001` up to below `10 ^ 16`, whole ones keep a point and a zero,
and of two equally near shortest decimals the even one is taken. -/
def numberLayout : Decimal.Layout where
  tie := .even
  positional := fun exponent => -5 ≤ exponent && exponent < 16
  wholePoint := true

/-- The text of a number that is not kept as an integer; what is not finite has none. -/
def realText : Number → String
  | .finite negative rank => String.ofList (Decimal.ofFinite numberLayout negative rank)
  | _ => "null"

mutual

/-- The compact text of a value. -/
def text : Json → String
  | .null => "null"
  | .boolean truth => if truth then "true" else "false"
  | .integer value => toString value
  | .real value => realText value
  | .string contents => quote contents
  | .array items => "[" ++ ",".intercalate (itemTexts items) ++ "]"
  | .object members => "\x7b" ++ ",".intercalate (memberTexts members) ++ "\x7d"

/-- The texts of the items of an array. -/
def itemTexts : List Json → List String
  | [] => []
  | item :: rest => text item :: itemTexts rest

/-- The texts of the members of an object. -/
def memberTexts : List (String × Json) → List String
  | [] => []
  | (key, value) :: rest => (quote key ++ ":" ++ text value) :: memberTexts rest

end

end Json
end AccessAudit
