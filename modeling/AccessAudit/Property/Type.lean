import AccessAudit.Script.Value

/-!
# Property types

Every ARIA state and property has a type of values. `PropertyType.accepts` decides whether a known
value belongs to a type.
-/

namespace AccessAudit

/-- A type of property values. -/
inductive PropertyType where
  | boolean
  | string
  /-- A boolean or `mixed`. -/
  | tristate
  | integer
  | number
  /-- One of the allowed texts. -/
  | token (allowed : List String)
  /-- One or more of the allowed texts, with blanks between them. -/
  | tokenList (allowed : List String)
deriving DecidableEq, Repr

namespace PropertyType

/-- The name of a type in messages. -/
def name : PropertyType → String
  | .boolean => "boolean"
  | .string => "string"
  | .tristate => "tristate"
  | .integer => "integer"
  | .number => "number"
  | .token _ => "token"
  | .tokenList _ => "tokenlist"

/-- The allowed texts of a type of tokens. -/
def allowed : PropertyType → List String
  | .token texts | .tokenList texts => texts
  | _ => []

/-- A boolean, or the string `true` or `false` in any case. -/
def isBoolean : Value → Bool
  | .boolean _ => true
  | .string text => Text.eqIgnoringCase text "true" || Text.eqIgnoringCase text "false"
  | _ => false

/-- An optional sign and one or more digits. -/
def isIntegerNumeral (chars : List Char) : Bool :=
  let digits := (Numeral.splitSign chars).2
  !digits.isEmpty && digits.all Char.isDigit

/-- The text is allowed, ignoring case. -/
def isAllowed (texts : List String) (token : String) : Bool :=
  texts.any fun text => Text.eqIgnoringCase text token

/-- The value belongs to the type. Numbers may also be written as strings, with blanks around. -/
def accepts : PropertyType → Value → Bool
  | .boolean, value => isBoolean value
  | .string, .string text => text != ""
  | .tristate, .string text =>
    isBoolean (.string text) || Text.eqIgnoringCase text "mixed"
  | .tristate, value => isBoolean value
  | .integer, .number value => value.isInteger
  | .integer, .string text => isIntegerNumeral (Text.trimmed text.toList)
  | .number, .number value => value.isFinite
  | .number, .string text =>
    !(Text.trimmed text.toList).isEmpty && (Number.ofText text).isFinite
  | .token texts, .string text => isAllowed texts text
  | .tokenList texts, .string text =>
    let tokens := Text.words text
    !tokens.isEmpty && tokens.all (isAllowed texts)
  | _, _ => false

end PropertyType
end AccessAudit
