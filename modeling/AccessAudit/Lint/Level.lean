import AccessAudit.Json.Basic

/-!
# Levels and severities

A configuration sets each rule to a level, by name or by number. The level decides whether the
rule runs and how severe its findings are.
-/

namespace AccessAudit

/-- How severe a finding is. -/
inductive Severity where
  | warning
  | error
deriving DecidableEq, Repr

namespace Severity

/-- The severity as it is shown. -/
def text : Severity → String
  | .warning => "warning"
  | .error => "error"

end Severity

/-- The level of a rule. -/
inductive Level where
  | off
  | warn
  | error
deriving DecidableEq, Repr

/-- Why a value is no level. -/
inductive LevelFault where
  /-- It is neither a natural number nor a string. -/
  | wrongKind
  | unknownNumber (value : Nat)
  | unknownName (name : String)
deriving DecidableEq, Repr

namespace LevelFault

/-- The fault as it is shown. -/
def message : LevelFault → String
  | .wrongKind => "data did not match any variant of untagged enum LevelRepr"
  | .unknownNumber value => "invalid rule level " ++ toString value
  | .unknownName name => "invalid rule level \"" ++ name ++ "\""

end LevelFault

namespace Level

/-- The severity of the findings of a rule at this level; a rule that is off has none. -/
def severity? : Level → Option Severity
  | .off => none
  | .warn => some .warning
  | .error => some .error

/-- The name of a level. -/
def text : Level → String
  | .off => "off"
  | .warn => "warn"
  | .error => "error"

/-- The level of a name. -/
def ofName (name : String) : Except LevelFault Level :=
  if name = "off" then .ok .off
  else if name = "warn" then .ok .warn
  else if name = "error" then .ok .error
  else .error (.unknownName name)

/-- The level of a number. -/
def ofNumber : Nat → Except LevelFault Level
  | 0 => .ok .off
  | 1 => .ok .warn
  | 2 => .ok .error
  | value => .error (.unknownNumber value)

/-- The level a JSON value stands for. -/
def ofJson : Json → Except LevelFault Level
  | .integer (.ofNat value) => ofNumber value
  | .string name => ofName name
  | _ => .error .wrongKind

/-- The JSON value of a level: its name. -/
def toJson (level : Level) : Json := .string level.text

end Level
end AccessAudit
