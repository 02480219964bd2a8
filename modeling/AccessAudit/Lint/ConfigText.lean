import AccessAudit.Json.Reader
import AccessAudit.Lint.Config

/-!
# Configurations as text

A configuration is judged while its text is being read, so the first fault counts, be it of the
text or of what it says. Each setting is read whole before it is judged; the values of members
other than `rules` are skipped.
-/

namespace AccessAudit

/-- A reader of configurations. -/
abbrev ConfigReader := Json.Reader ConfigFault

namespace ConfigReader

/-- The containers that may be nested within a setting, which itself stands in two. -/
def settingDepth : Nat := Json.depthLimit - 2

/-- Complain about the kind of the value that comes next. -/
def wrongKind {α : Type} (expected : Expected) : ConfigReader α := do
  let kind : JsonKind ←
    match ← Json.Reader.peek with
    | some '[' => pure .array
    | some '\x7b' => pure .object
    | _ => JsonKind.ofJson <$> Json.Reader.scalar .keep
  Json.Reader.reject (.wrongKind kind expected)

/-- The setting of a rule, behind the rule's name. -/
def setting (budget : Nat) (config : Config) (rule : String) : ConfigReader Config := do
  Json.Reader.colon
  let json ← Json.Reader.value .keep budget settingDepth
  match config.addMember rule json with
  | .ok extended => return extended
  | .error fault => Json.Reader.reject fault

/-- An object of rules. -/
def rules (budget : Nat) : ConfigReader Config := do
  match ← Json.Reader.peek with
  | some '\x7b' =>
    Json.Reader.advance
    Json.Reader.members .keep budget (setting budget) Config.empty
  | _ => wrongKind .rules

/-- A member of a configuration, behind its key. -/
def member (budget : Nat) (found : Option Config) (key : String) :
    ConfigReader (Option Config) := do
  if key = "rules" then
    if found.isSome then Json.Reader.reject .repeatedRules
    else
      Json.Reader.colon
      return some (← rules budget)
  else
    Json.Reader.colon
    Json.Reader.skipValue budget
    return found

/-- A configuration behind its opening bracket: nothing, or the rules alone. -/
def arrayForm (budget : Nat) : ConfigReader Config := do
  match ← Json.Reader.peek with
  | some ']' =>
    Json.Reader.advance
    return Config.empty
  | _ =>
    let config ← rules budget
    match ← Json.Reader.peek with
    | some ']' =>
      Json.Reader.advance
      return config
    | _ => Json.Reader.malformed

/-- A configuration in either form. -/
def config (budget : Nat) : ConfigReader Config := do
  match ← Json.Reader.peek with
  | some '\x7b' =>
    Json.Reader.advance
    return (← Json.Reader.members .keep budget (member budget) none).getD Config.empty
  | some '[' =>
    Json.Reader.advance
    arrayForm budget
  | _ => wrongKind .config

end ConfigReader

namespace Config

/-- The configuration a text stands for. -/
def ofText (text : String) : Except (Json.Fault ConfigFault) Config :=
  Json.Reader.run ConfigReader.config text

/-- The compact text of a configuration. -/
def text (config : Config) : String := config.toJson.text

end Config
end AccessAudit
