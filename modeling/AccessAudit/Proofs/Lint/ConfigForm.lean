import AccessAudit.Lint.Config
import Mathlib.Data.List.Forall2

/-!
# Configurations and their JSON values

A configuration has several JSON values, of which `Config.toJson` writes one. This file proves that
the one written is read back as the same configuration, and which one it is: levels are written by
name, a list of nothing but a level as the level, options as they are, `null` among them, and all
that is not a rule is left out (`Config.normalForm`).

The normal form is computed from the value itself. Reading a value and writing it again comes to
the same.
-/

namespace AccessAudit

namespace Level

/-- The value in which a level that is given by number is given by name. -/
def normalForm : Json → Json
  | .integer 0 => .string "off"
  | .integer 1 => .string "warn"
  | .integer 2 => .string "error"
  | other => other

theorem ofJson_toJson (level : Level) : ofJson level.toJson = .ok level := by
  cases level <;> rfl

theorem toJson_of_ofJson {json : Json} {level : Level} (read : ofJson json = .ok level) :
    level.toJson = normalForm json := by
  unfold ofJson at read
  split at read
  · unfold ofNumber at read
    split at read
    all_goals cases read
    all_goals rfl
  · unfold ofName at read
    split at read
    · rename_i isOff
      cases read
      rw [isOff]
      rfl
    · split at read
      · rename_i isWarn
        cases read
        rw [isWarn]
        rfl
      · split at read
        · rename_i isError
          cases read
          rw [isError]
          rfl
        · cases read
  · cases read

end Level

namespace Setting

/-- The value in which a list of a level alone is the level, and levels are given by name. -/
def normalForm : Json → Json
  | .array [level] => Level.normalForm level
  | .array [level, options] => .array [Level.normalForm level, options]
  | other => Level.normalForm other

theorem ofJson_toJson (setting : Setting) : ofJson setting.toJson = .ok setting := by
  rcases setting with ⟨level, _ | options⟩
  · simp [ofJson, toJson, Level.ofJson_toJson]
  · have noLevel : Level.ofJson (.array [level.toJson, options]) = .error .wrongKind := rfl
    simp [ofJson, toJson, noLevel, Level.ofJson_toJson]

theorem normalForm_of_level {json : Json} {level : Level} (read : Level.ofJson json = .ok level) :
    normalForm json = Level.normalForm json := by
  unfold normalForm
  split
  · cases read
  · cases read
  · rfl

theorem toJson_of_ofJson {json : Json} {setting : Setting} (read : ofJson json = .ok setting) :
    setting.toJson = normalForm json := by
  unfold ofJson at read
  split at read
  · rename_i level isLevel
    cases read
    rw [normalForm_of_level isLevel]
    exact Level.toJson_of_ofJson isLevel
  · split at read
    · cases read
    · rename_i first rest
      split at read
      · cases read
      · rename_i level isLevel
        cases read
        exact Level.toJson_of_ofJson isLevel
      · rename_i level options isLevel
        cases read
        simp [toJson, normalForm, Level.toJson_of_ofJson isLevel]
      · cases read
    · cases read

end Setting

namespace Config

/-- The members of the object of rules, wherever a value has it. -/
def ruleMembers : Json → List (String × Json)
  | .object members =>
    match members.filter fun entry => entry.1 == "rules" with
    | [(_, .object rules)] => rules
    | _ => []
  | .array [.object rules] => rules
  | _ => []

/-- The value that has nothing but rules, each once, in order, and in normal form. -/
def normalForm (json : Json) : Json :=
  .object [("rules", .object ((Dictionary.ofEntries (ruleMembers json)).entries.map fun entry =>
    (entry.1, Setting.normalForm entry.2)))]

/-- A member of an object of rules is read as a setting of the rule. -/
def ReadsAs (member : String × Json) (entry : String × Setting) : Prop :=
  member.1 = entry.1 ∧ Setting.ofJson member.2 = .ok entry.2

/-- Members are read one by one into settings, and these are set one after the other. -/
theorem foldlM_addMember_eq_ok_iff {members : List (String × Json)} {config extended : Config} :
    members.foldlM (fun config entry => config.addMember entry.1 entry.2) config = .ok extended ↔
      ∃ settings, List.Forall₂ ReadsAs members settings ∧
        extended.rules = settings.foldl
          (fun dictionary entry => dictionary.insert entry.1 entry.2) config.rules := by
  induction members generalizing config with
  | nil =>
      rcases config with ⟨rules⟩
      rcases extended with ⟨extendedRules⟩
      simp [pure, Except.pure, eq_comm]
  | cons member members ih =>
      rw [List.foldlM_cons, addMember]
      constructor
      · intro read
        cases isSetting : Setting.ofJson member.2 with
        | error fault =>
            rw [isSetting] at read
            cases read
        | ok setting =>
            rw [isSetting] at read
            rcases ih.mp read with ⟨settings, readRest, isRules⟩
            exact ⟨(member.1, setting) :: settings, .cons ⟨rfl, isSetting⟩ readRest, isRules⟩
      · rintro ⟨_, _ | ⟨⟨sameName, isSetting⟩, readRest⟩, isRules⟩
        rw [isSetting]
        rw [List.foldl_cons, ← sameName] at isRules
        exact ih.mpr ⟨_, readRest, isRules⟩

theorem ofRules_eq_ok_iff {members : List (String × Json)} {config : Config} :
    ofRules (.object members) = .ok config ↔
      ∃ settings, List.Forall₂ ReadsAs members settings ∧
        config.rules = Dictionary.ofEntries settings :=
  foldlM_addMember_eq_ok_iff

theorem ofJson_toJson (config : Config) : ofJson config.toJson = .ok config := by
  have isRules : ofJson config.toJson = ofRules (.object
      (config.rules.entries.map fun entry => (entry.1, entry.2.toJson))) := by
    simp [ofJson, toJson]
  rw [isRules, ofRules_eq_ok_iff]
  refine ⟨config.rules.entries, ?_, config.rules.ofEntries_entries.symm⟩
  rw [List.forall₂_map_left_iff, List.forall₂_same]
  intro entry _
  exact ⟨rfl, entry.2.ofJson_toJson⟩

/-- Whatever form a value has, its configuration is that of its rules. -/
theorem ofRules_ruleMembers {json : Json} {config : Config} (read : ofJson json = .ok config) :
    ofRules (.object (ruleMembers json)) = .ok config := by
  unfold ofJson at read
  split at read
  · rename_i members
    split at read
    · rename_i noRules
      cases read
      simp [ruleMembers, noRules, ofRules, pure, Except.pure]
    · rename_i entry onlyRules
      rcases entry with ⟨key, value⟩
      cases value with
      | object rules => simpa [ruleMembers, onlyRules] using read
      | _ => cases read
    · cases read
  · cases read
    rfl
  · rename_i rules
    cases rules with
    | object rules => exact read
    | _ => cases read
  · cases read
  · cases read

theorem toJson_of_readsAs {members : List (String × Json)} {settings : List (String × Setting)}
    (readAs : List.Forall₂ ReadsAs members settings) :
    settings.map (fun entry => (entry.1, entry.2.toJson)) =
      members.map fun member => (member.1, Setting.normalForm member.2) := by
  induction readAs with
  | nil => rfl
  | cons first _ ih =>
      rcases first with ⟨sameName, isSetting⟩
      simp [sameName, Setting.toJson_of_ofJson isSetting, ih]

theorem toJson_of_ofJson {json : Json} {config : Config} (read : ofJson json = .ok config) :
    config.toJson = normalForm json := by
  rcases ofRules_eq_ok_iff.mp (ofRules_ruleMembers read) with ⟨settings, readAs, isRules⟩
  simp only [toJson, normalForm, isRules, ← Dictionary.entries_ofEntries_map,
    toJson_of_readsAs readAs]

/-- Every configuration is read back from the value it is written as. Every value that is read as
a configuration is written again in its normal form, which is read as the same configuration and
written as itself. -/
theorem ofJson_toJson_and_back :
    (∀ config : Config, ofJson config.toJson = .ok config) ∧
    ∀ json config, ofJson json = .ok config →
      config.toJson = normalForm json ∧
      ofJson (normalForm json) = .ok config ∧
      normalForm (normalForm json) = normalForm json := by
  refine ⟨ofJson_toJson, ?_⟩
  intro json config read
  have written := toJson_of_ofJson read
  have readBack : ofJson (normalForm json) = .ok config := by
    rw [← written]
    exact config.ofJson_toJson
  exact ⟨written, readBack, (toJson_of_ofJson readBack).symm.trans written⟩

/-- A value with numbers for levels, a list of a level, options that are `null`, and a member that
is no rule. -/
def variedValue : Json :=
  .object [("rules", .object [("a", .array [.integer 2]), ("b", .integer 0),
    ("c", .array [.string "off", .null])]), ("x", .integer 0)]

theorem ofJson_toJson_and_back_varied : ∃ config, ofJson variedValue = .ok config ∧
    config.toJson = .object [("rules", .object [("a", .string "error"), ("b", .string "off"),
      ("c", .array [.string "off", .null])])] ∧
    ofJson config.toJson = .ok config := by
  have read : ofJson variedValue = .ok (((empty.set "a" ⟨.error, none⟩).set "b" ⟨.off, none⟩).set
      "c" ⟨.off, some .null⟩) := rfl
  rcases ofJson_toJson_and_back.2 _ _ read with ⟨written, readBack, _⟩
  refine ⟨_, read, ?_, ?_⟩
  · rw [written]
    rfl
  · rw [written]
    exact readBack

end Config
end AccessAudit
