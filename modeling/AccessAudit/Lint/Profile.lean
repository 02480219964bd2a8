import AccessAudit.Lint.Linter

/-!
# Profiles

Two configurations that come with the linter. Both report all findings as errors; they differ in
the handlers that are flagged and in the roles that may be repeated.
-/

namespace AccessAudit

/-- A configuration that comes with the linter. -/
inductive Profile where
  /-- The lenient default. -/
  | recommended
  /-- Flags every handler for interaction and every repeated role. -/
  | strict
deriving DecidableEq, Repr

namespace Profile

/-- The name of a profile. -/
def text : Profile → String
  | .recommended => "recommended"
  | .strict => "strict"

/-- A JSON array of strings. -/
def names (texts : List String) : Json := .array (texts.map .string)

/-- The handlers for loading, which elements that load something may have. -/
def loading : Json := names ["onError", "onLoad"]

/-- The handlers that the recommended profile flags. -/
def recommendedHandlers : List String :=
  ["onClick", "onError", "onLoad", "onMouseDown", "onMouseUp", "onKeyPress", "onKeyDown", "onKeyUp"]

/-- The options of the rule on handlers. -/
def handlerOptions : Profile → Json
  | .recommended =>
    .object
      [("body", loading), ("handlers", names recommendedHandlers), ("iframe", loading),
        ("img", loading)]
  | .strict => .object [("body", loading), ("iframe", loading), ("img", loading)]

/-- The options of the rule on repeated roles. -/
def redundancyOptions : Profile → Json
  | .recommended => .object [("nav", names ["navigation"])]
  | .strict => .object []

/-- The options of a rule in a profile. -/
def options? (profile : Profile) : RuleId → Option Json
  | .handlerPlacement => some profile.handlerOptions
  | .roleRedundancy => some profile.redundancyOptions
  | _ => none

/-- The configuration of a profile. -/
def config (profile : Profile) : Config :=
  RuleId.all.foldl (fun config id => config.set id.text ⟨.error, profile.options? id⟩) Config.empty

/-- The line that tells which profile is used. -/
def log (profile : Profile) : LogLine where
  level := .debug
  message := "Using " ++ profile.text ++ " profile"

end Profile
end AccessAudit
