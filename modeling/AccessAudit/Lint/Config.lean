import AccessAudit.Dictionary
import AccessAudit.Json.Writer
import AccessAudit.Lint.Level
import AccessAudit.Text.Quoted

/-!
# Configurations

A configuration sets rules, by name, to a level and possibly to options. As a JSON value it is an
object with a member `rules`, or an array with the rules as its only item; each setting is a
level or an array of a level and at most one options value. `Config.ofJson` and `Config.toJson`
are the two directions on JSON values.
-/

namespace AccessAudit

/-- The setting of a rule. -/
structure Setting where
  level : Level
  /-- The options; there may be none, which is not the same as the value `null`. -/
  options : Option Json

/-- Why a value is no setting. -/
inductive SettingFault where
  /-- It is neither a level nor an array. -/
  | wrongKind
  /-- It is an empty array. -/
  | empty
  /-- The first item of an array is no level. -/
  | level (fault : LevelFault)
  /-- It is an array of more than two items. -/
  | tooLong
deriving DecidableEq, Repr

namespace SettingFault

/-- The fault as it is shown. -/
def message : SettingFault → String
  | .wrongKind => "data did not match any variant of untagged enum SettingRepr"
  | .empty => "empty rule setting"
  | .level fault => fault.message
  | .tooLong => "expected at most one options value"

end SettingFault

namespace Setting

/-- The setting a JSON value stands for. What is wrong with a level on its own is not told. -/
def ofJson (json : Json) : Except SettingFault Setting :=
  match Level.ofJson json with
  | .ok level => .ok ⟨level, none⟩
  | .error _ =>
    match json with
    | .array [] => .error .empty
    | .array (first :: rest) =>
      match Level.ofJson first, rest with
      | .error fault, _ => .error (.level fault)
      | .ok level, [] => .ok ⟨level, none⟩
      | .ok level, [options] => .ok ⟨level, some options⟩
      | .ok _, _ => .error .tooLong
    | _ => .error .wrongKind

/-- The JSON value of a setting: a level without options stands on its own. -/
def toJson (setting : Setting) : Json :=
  match setting.options with
  | none => setting.level.toJson
  | some options => .array [setting.level.toJson, options]

end Setting

/-- The settings of rules by their names. -/
structure Config where
  rules : Dictionary Setting

/-- A part of a configuration that was expected to have another kind of value. -/
inductive Expected where
  | config
  | rules
deriving DecidableEq, Repr

namespace Expected

/-- What was expected, as it is shown. -/
def text : Expected → String
  | .config => "struct LintConfig"
  | .rules => "a map"

end Expected

/-- What a value is, as far as a complaint about its kind tells it. -/
inductive JsonKind where
  | null
  | boolean (truth : Bool)
  | integer (value : Int)
  | real (value : Number)
  | string (contents : String)
  | array
  | object
deriving DecidableEq, Repr

namespace JsonKind

/-- The kind of a value. -/
def ofJson : Json → JsonKind
  | .null => .null
  | .boolean truth => .boolean truth
  | .integer value => .integer value
  | .real value => .real value
  | .string contents => .string contents
  | .array _ => .array
  | .object _ => .object

/-- The kind as it is shown. -/
def text : JsonKind → String
  | .null => "null"
  | .boolean truth => "boolean `" ++ (if truth then "true" else "false") ++ "`"
  | .integer value => "integer `" ++ toString value ++ "`"
  | .real value => "floating point `" ++ Json.realText value ++ "`"
  | .string contents => "string " ++ Text.quoted contents
  | .array => "sequence"
  | .object => "map"

end JsonKind

/-- Why a JSON value is no configuration. -/
inductive ConfigFault where
  | wrongKind (found : JsonKind) (expected : Expected)
  | repeatedRules
  /-- There are items behind the rules. -/
  | tooLong
  | setting (fault : SettingFault)
deriving DecidableEq, Repr

namespace ConfigFault

/-- The fault as it is shown. -/
def message : ConfigFault → String
  | .wrongKind found expected => "invalid type: " ++ found.text ++ ", expected " ++ expected.text
  | .repeatedRules => "duplicate field `rules`"
  | .tooLong => "expected fewer elements in array"
  | .setting fault => fault.message

end ConfigFault

namespace Config

/-- The configuration without rules. -/
def empty : Config := ⟨Dictionary.empty⟩

/-- Set one more rule. -/
def set (config : Config) (rule : String) (setting : Setting) : Config :=
  ⟨config.rules.insert rule setting⟩

/-- Add the setting a member of `rules` stands for. -/
def addMember (config : Config) (rule : String) (json : Json) : Except ConfigFault Config :=
  match Setting.ofJson json with
  | .ok setting => .ok (config.set rule setting)
  | .error fault => .error (.setting fault)

/-- The configuration that an object of rules stands for. -/
def ofRules : Json → Except ConfigFault Config
  | .object members => members.foldlM (fun config entry => config.addMember entry.1 entry.2) empty
  | other => .error (.wrongKind (.ofJson other) .rules)

/-- The configuration a JSON value stands for. Members other than `rules` are ignored. -/
def ofJson : Json → Except ConfigFault Config
  | .object members =>
    match members.filter fun entry => entry.1 == "rules" with
    | [] => .ok empty
    | [entry] => ofRules entry.2
    | _ => .error .repeatedRules
  | .array [] => .ok empty
  | .array [rules] => ofRules rules
  | .array _ => .error .tooLong
  | other => .error (.wrongKind (.ofJson other) .config)

/-- The JSON value of a configuration. -/
def toJson (config : Config) : Json :=
  .object [("rules", .object (config.rules.entries.map fun entry => (entry.1, entry.2.toJson)))]

end Config
end AccessAudit
