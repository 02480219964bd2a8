import AccessAudit.Lint.Linter

/-!
# From settings to rules in force

This file says which configurations make a linter, and which rules are then in force.

Each setting stands for itself: it has to fit the rule it names, and it puts that rule in force
unless it switches it off (`ActiveRule.ofSetting?`). A configuration makes a linter exactly if all
its settings fit, and the rules in force are those of its settings one by one
(`Linter.ofConfig_eq_ok_iff`). What a change to one setting does to the rules is read off that
list.
-/

namespace AccessAudit

theorem map_eq_ok_iff {ε α β : Type} {result : Except ε α} {f : α → β} {value : β} :
    result.map f = .ok value ↔ ∃ before, result = .ok before ∧ f before = value := by
  cases result <;> simp [Except.map]

namespace RuleId

theorem ofText?_text (id : RuleId) : ofText? id.text = some id := by
  cases id <;> rfl

theorem ofText?_eq_some_iff {name : String} {id : RuleId} :
    ofText? name = some id ↔ id.text = name := by
  constructor
  · intro found
    simpa using List.find?_some found
  · rintro rfl
    exact ofText?_text id

theorem text_injective {left right : RuleId} (same : left.text = right.text) : left = right := by
  have found := ofText?_text left
  rw [same, ofText?_text] at found
  exact (Option.some.inj found).symm

end RuleId

namespace Rule

@[simp]
theorem id_ofOptions (id : RuleId) (options : Option Json) : (ofOptions id options).id = id := by
  cases id <;> rfl

/-- A rule is made of a known name and options that fit. -/
theorem create_eq_ok_iff {name : String} {options : Option Json} {rule : Rule} :
    create name options = .ok rule ↔
      ∃ id : RuleId, id.text = name ∧ id.shape.check options = .ok () ∧
        rule = ofOptions id options := by
  constructor
  · intro created
    unfold create at created
    split at created
    · cases created
    · rename_i id known
      split at created
      · cases created
      · rename_i fits
        exact ⟨id, RuleId.ofText?_eq_some_iff.mp known, fits, (Except.ok.inj created).symm⟩
  · rintro ⟨id, rfl, fits, rfl⟩
    simp only [create, RuleId.ofText?_text, fits]

theorem create_text_eq_ok_iff {id : RuleId} {options : Option Json} {rule : Rule} :
    create id.text options = .ok rule ↔
      id.shape.check options = .ok () ∧ rule = ofOptions id options := by
  rw [create_eq_ok_iff]
  constructor
  · rintro ⟨other, named, fits, made⟩
    cases RuleId.text_injective named
    exact ⟨fits, made⟩
  · rintro ⟨fits, made⟩
    exact ⟨id, rfl, fits, made⟩

end Rule

namespace Setting

/-- The setting is one of a rule of this name, with options that fit the rule. -/
def Fits (setting : Setting) (name : String) : Prop :=
  ∃ id : RuleId, id.text = name ∧ id.shape.check setting.options = .ok ()

end Setting

namespace ActiveRule

/-- The rule that a setting puts in force, if it does not switch it off. -/
def ofSetting? (name : String) (setting : Setting) : Option ActiveRule := do
  let id ← RuleId.ofText? name
  let severity ← setting.level.severity?
  return ⟨Rule.ofOptions id setting.options, severity⟩

theorem ofSetting?_text (id : RuleId) (setting : Setting) :
    ofSetting? id.text setting =
      setting.level.severity?.map fun severity => ⟨Rule.ofOptions id setting.options, severity⟩ := by
  rw [ofSetting?, RuleId.ofText?_text]
  cases setting.level.severity? <;> rfl

theorem ofSetting?_eq_some {name : String} {setting : Setting} {active : ActiveRule}
    (inForce : ofSetting? name setting = some active) :
    active.rule.id.text = name ∧ setting.level.severity? = some active.severity := by
  simp only [ofSetting?, Option.bind_eq_bind, Option.bind_eq_some_iff] at inForce
  rcases inForce with ⟨id, known, severity, graded, made⟩
  cases made
  exact ⟨by simpa using RuleId.ofText?_eq_some_iff.mp known, graded⟩

end ActiveRule

namespace Config

/-- Every setting fits the rule it names. -/
def Fits (config : Config) : Prop :=
  ∀ entry ∈ config.rules.entries, entry.2.Fits entry.1

/-- The rules that the settings put in force, in the order of their names. -/
def activeRules (config : Config) : List ActiveRule :=
  config.rules.entries.filterMap fun entry => ActiveRule.ofSetting? entry.1 entry.2

end Config

namespace Linter

theorem activate_cons_of_fits {name : String} {setting : Setting} (fits : setting.Fits name)
    (rest : List (String × Setting)) :
    activate ((name, setting) :: rest) =
      (activate rest).map ((ActiveRule.ofSetting? name setting).toList ++ ·) := by
  rcases fits with ⟨id, rfl, fits⟩
  have created : Rule.create id.text setting.options = .ok (Rule.ofOptions id setting.options) :=
    Rule.create_eq_ok_iff.mpr ⟨id, rfl, fits, rfl⟩
  rw [activate, created, ActiveRule.ofSetting?_text]
  cases activate rest with
  | error cause => rfl
  | ok others => cases setting.level.severity? <;> rfl

theorem fits_of_activate_cons {name : String} {setting : Setting} {rest : List (String × Setting)}
    {rules : List ActiveRule} (activated : activate ((name, setting) :: rest) = .ok rules) :
    setting.Fits name := by
  rw [activate] at activated
  cases created : Rule.create name setting.options with
  | error cause =>
      rw [created] at activated
      cases activated
  | ok rule =>
      rcases Rule.create_eq_ok_iff.mp created with ⟨id, named, fits, _⟩
      exact ⟨id, named, fits⟩

theorem activate_eq_ok_iff {entries : List (String × Setting)} {rules : List ActiveRule} :
    activate entries = .ok rules ↔
      (∀ entry ∈ entries, entry.2.Fits entry.1) ∧
        rules = entries.filterMap fun entry => ActiveRule.ofSetting? entry.1 entry.2 := by
  induction entries generalizing rules with
  | nil => simp [activate, eq_comm]
  | cons entry rest ih =>
      rcases entry with ⟨name, setting⟩
      have listed : ((name, setting) :: rest).filterMap
            (fun entry => ActiveRule.ofSetting? entry.1 entry.2) =
          (ActiveRule.ofSetting? name setting).toList ++
            rest.filterMap fun entry => ActiveRule.ofSetting? entry.1 entry.2 := by
        cases inForce : ActiveRule.ofSetting? name setting <;> simp [inForce]
      rw [listed]
      constructor
      · intro activated
        have fits := fits_of_activate_cons activated
        rw [activate_cons_of_fits fits] at activated
        rcases map_eq_ok_iff.mp activated with ⟨others, activatedRest, rfl⟩
        rcases ih.mp activatedRest with ⟨restFits, rfl⟩
        exact ⟨List.forall_mem_cons.mpr ⟨fits, restFits⟩, rfl⟩
      · rintro ⟨fits, rfl⟩
        rcases List.forall_mem_cons.mp fits with ⟨firstFits, restFits⟩
        rw [activate_cons_of_fits firstFits, ih.mpr ⟨restFits, rfl⟩]
        rfl

/-- A configuration makes a linter exactly if its settings fit, with the rules that the settings
put in force. -/
theorem ofConfig_eq_ok_iff {config : Config} {linter : Linter} :
    ofConfig config = .ok linter ↔
      config.Fits ∧ linter = ⟨Ontology.standard, config.activeRules⟩ := by
  rw [ofConfig, map_eq_ok_iff]
  constructor
  · rintro ⟨rules, activated, rfl⟩
    rcases activate_eq_ok_iff.mp activated with ⟨fits, rfl⟩
    exact ⟨fits, rfl⟩
  · rintro ⟨fits, rfl⟩
    exact ⟨config.activeRules, activate_eq_ok_iff.mpr ⟨fits, rfl⟩, rfl⟩

end Linter
end AccessAudit
