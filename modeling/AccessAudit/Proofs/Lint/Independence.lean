import AccessAudit.Proofs.Lint.Activation
import Mathlib.Data.List.Basic
import Mathlib.Data.Option.Basic

/-!
# Rules do not disturb each other

This file proves that what a rule reports does not hang on which other rules are in force, nor on
how severe its own findings or those of other rules are said to be.

A linter runs its rules side by side and only puts their reports together. Leaving rules out
therefore leaves out their reports (`Linter.lint_restrict`), and giving them another severity
changes nothing but the severity of what they report (`Linter.lint_regrade`). What is left is to
say which rules a change of one setting leaves out, and which it grades anew.
-/

namespace AccessAudit

namespace ActiveRule

variable (active : ActiveRule)

/-- The rule with the severity of its findings graded anew. -/
def regrade (grade : RuleId → Severity → Severity) : ActiveRule :=
  { active with severity := grade active.rule.id active.severity }

/-- All that a rule reports bears its name. -/
theorem filter_report (found : Option Finding) (node : NodeId) (target : Target)
    (keep : RuleId → Bool) :
    (found.map (active.report node target)).filter (keep ·.rule) =
      if keep active.rule.id then found.map (active.report node target) else none := by
  cases found with
  | none => simp
  | some finding => cases kept : keep active.rule.id <;> simp [report, kept]

end ActiveRule

namespace Diagnostic

/-- The diagnostic with its severity graded anew. -/
def regrade (diagnostic : Diagnostic) (grade : RuleId → Severity → Severity) : Diagnostic :=
  { diagnostic with severity := grade diagnostic.rule diagnostic.severity }

end Diagnostic

namespace Linter

variable (linter : Linter)

/-- The linter with the rules that are kept. -/
def restrict (keep : RuleId → Bool) : Linter :=
  { linter with rules := linter.rules.filter (keep ·.rule.id) }

/-- The linter with all severities graded anew. -/
def regrade (grade : RuleId → Severity → Severity) : Linter :=
  { linter with rules := linter.rules.map (·.regrade grade) }

theorem lintElement_restrict (keep : RuleId → Bool) (node : NodeId) (element : Element) :
    (linter.restrict keep).lintElement node element =
      (linter.lintElement node element).filter (keep ·.rule) := by
  simp only [lintElement, restrict, List.filter_append, List.filter_flatMap, List.filter_filterMap,
    List.filterMap_filter, ActiveRule.onElement?, ActiveRule.onAttribute?, ActiveRule.filter_report]

/-- Without some of the rules, only their diagnostics are missing. -/
theorem lint_restrict (keep : RuleId → Bool) (document : Document) :
    (linter.restrict keep).lint document = (linter.lint document).filter (keep ·.rule) := by
  simp only [lint, lintElement_restrict, List.filter_flatMap]

theorem lintElement_regrade (grade : RuleId → Severity → Severity) (node : NodeId)
    (element : Element) :
    (linter.regrade grade).lintElement node element =
      (linter.lintElement node element).map (·.regrade grade) := by
  simp only [lintElement, regrade, List.map_append, List.map_flatMap, List.map_filterMap,
    List.filterMap_map, Function.comp_def, ActiveRule.onElement?, ActiveRule.onAttribute?,
    Option.map_map]
  rfl

/-- With other severities, the diagnostics differ in nothing but their severities. -/
theorem lint_regrade (grade : RuleId → Severity → Severity) (document : Document) :
    (linter.regrade grade).lint document = (linter.lint document).map (·.regrade grade) := by
  simp only [lint, lintElement_regrade, List.map_flatMap]

end Linter

namespace Setting

/-- Whether a setting fits does not hang on its level. -/
theorem Fits.withLevel {setting : Setting} {name : String} (fits : setting.Fits name)
    (level : Level) : ({ setting with level } : Setting).Fits name :=
  fits

end Setting

namespace Config

variable {config : Config} {name : String} {setting : Setting}

theorem Fits.of_listed (fits : config.Fits) (listed : config.rules.get? name = some setting) :
    setting.Fits name :=
  fits (name, setting) (config.rules.mem_entries.mpr listed)

theorem Fits.set (fits : config.Fits) (settingFits : setting.Fits name) :
    (config.set name setting).Fits := by
  intro entry member
  rcases mem_insertEntry member with rfl | before
  · exact settingFits
  · exact fits entry before

theorem entries_set (listed : config.rules.get? name = some setting) (changed : Setting) :
    (config.set name changed).rules.entries =
      config.rules.entries.map fun entry => if entry.1 = name then (name, changed) else entry :=
  insertEntry_of_mem changed config.rules.ascending (config.rules.mem_entries.mpr listed)

theorem filter_activeRules (config : Config) (keep : String → Bool) :
    config.activeRules.filter (fun active => keep active.rule.id.text) =
      (config.rules.entries.filter fun entry => keep entry.1).filterMap fun entry =>
        ActiveRule.ofSetting? entry.1 entry.2 := by
  rw [activeRules, List.filterMap_filter, List.filter_filterMap]
  apply List.filterMap_congr
  intro entry _
  cases inForce : ActiveRule.ofSetting? entry.1 entry.2 with
  | none => simp
  | some active => rw [Option.filter_some, (ActiveRule.ofSetting?_eq_some inForce).1]

/-- A setting on its own puts its rule in force, and no other. -/
theorem activeRules_alone (listed : config.rules.get? name = some setting) :
    (Config.empty.set name setting).activeRules =
      config.activeRules.filter fun active => active.rule.id.text = name := by
  have alone := filter_eq_singleton config.rules.ascending (config.rules.mem_entries.mpr listed)
  rw [config.filter_activeRules fun text => text = name, alone]
  rfl

/-- A rule that is switched off is no longer in force, and every other one is. -/
theorem activeRules_off (listed : config.rules.get? name = some setting) :
    (config.set name { setting with level := .off }).activeRules =
      config.activeRules.filter fun active => active.rule.id.text ≠ name := by
  rw [config.filter_activeRules fun text => text ≠ name, activeRules, entries_set listed,
    List.filterMap_map, List.filterMap_filter]
  apply List.filterMap_congr
  intro entry _
  by_cases same : entry.1 = name
  · have off : ActiveRule.ofSetting? name { setting with level := .off } = none := by
      cases known : RuleId.ofText? name <;> simp [ActiveRule.ofSetting?, known, Level.severity?]
    simp [same, off]
  · simp [same]

/-- A rule that is switched between levels stays in force with another severity. -/
theorem activeRules_switch {level : Level} {severity : Severity}
    (listed : config.rules.get? name = some setting) (on : setting.level ≠ .off)
    (graded : level.severity? = some severity) :
    (config.set name { setting with level }).activeRules =
      config.activeRules.map
        (·.regrade fun id before => if id.text = name then severity else before) := by
  rw [activeRules, activeRules, entries_set listed, List.filterMap_map, List.map_filterMap]
  apply List.filterMap_congr
  rintro ⟨other, kept⟩ member
  by_cases same : other = name
  · subst same
    rw [config.rules.mem_entries, listed] at member
    cases member
    have stillOn : ∃ before, setting.level.severity? = some before := by
      cases reached : setting.level <;> simp_all [Level.severity?]
    rcases stillOn with ⟨before, gradedBefore⟩
    cases known : RuleId.ofText? other with
    | none => simp [ActiveRule.ofSetting?, known]
    | some id =>
        have named := RuleId.ofText?_eq_some_iff.mp known
        simp [ActiveRule.ofSetting?, known, graded, gradedBefore, ActiveRule.regrade, named]
  · cases inForce : ActiveRule.ofSetting? other kept with
    | none => simp [same, inForce]
    | some active =>
        have named := (ActiveRule.ofSetting?_eq_some inForce).1
        simp [same, inForce, ActiveRule.regrade, named]

end Config

namespace Linter

variable {config : Config} {linter : Linter} {name : String} {setting : Setting}

theorem ofConfig_alone (accepted : ofConfig config = .ok linter)
    (listed : config.rules.get? name = some setting) :
    ofConfig (Config.empty.set name setting) = .ok (linter.restrict fun id => id.text = name) := by
  rcases ofConfig_eq_ok_iff.mp accepted with ⟨fits, rfl⟩
  have nothingSet : Config.empty.Fits := by simp [Config.Fits, Config.empty, Dictionary.empty]
  refine ofConfig_eq_ok_iff.mpr ⟨nothingSet.set (fits.of_listed listed), ?_⟩
  rw [restrict, Config.activeRules_alone listed]

theorem ofConfig_off (accepted : ofConfig config = .ok linter)
    (listed : config.rules.get? name = some setting) :
    ofConfig (config.set name { setting with level := .off }) =
      .ok (linter.restrict fun id => id.text ≠ name) := by
  rcases ofConfig_eq_ok_iff.mp accepted with ⟨fits, rfl⟩
  refine ofConfig_eq_ok_iff.mpr ⟨fits.set ((fits.of_listed listed).withLevel .off), ?_⟩
  rw [restrict, Config.activeRules_off listed]

theorem ofConfig_switch {level : Level} {severity : Severity}
    (accepted : ofConfig config = .ok linter) (listed : config.rules.get? name = some setting)
    (on : setting.level ≠ .off) (graded : level.severity? = some severity) :
    ofConfig (config.set name { setting with level }) =
      .ok (linter.regrade fun id before => if id.text = name then severity else before) := by
  rcases ofConfig_eq_ok_iff.mp accepted with ⟨fits, rfl⟩
  refine ofConfig_eq_ok_iff.mpr ⟨fits.set ((fits.of_listed listed).withLevel level), ?_⟩
  rw [regrade, Config.activeRules_switch listed on graded]

/-- Every rule reports the same whatever the others are: on its own, the linter of its setting
alone reports exactly what it reports among the others. Switching it off takes its diagnostics
away and no other, and switching it between the levels that are not off changes the severity of its
diagnostics and nothing else. -/
theorem lint_of_setting (accepted : ofConfig config = .ok linter)
    (listed : config.rules.get? name = some setting) (document : Document) :
    (∃ alone, ofConfig (Config.empty.set name setting) = .ok alone ∧
      alone.lint document =
        (linter.lint document).filter fun diagnostic => diagnostic.rule.text = name) ∧
    (∃ without, ofConfig (config.set name { setting with level := .off }) = .ok without ∧
      without.lint document =
        (linter.lint document).filter fun diagnostic => diagnostic.rule.text ≠ name) ∧
    ∀ level severity, setting.level ≠ .off → level.severity? = some severity →
      ∃ switched, ofConfig (config.set name { setting with level }) = .ok switched ∧
        switched.lint document = (linter.lint document).map fun diagnostic =>
          if diagnostic.rule.text = name then { diagnostic with severity } else diagnostic := by
  refine ⟨⟨_, ofConfig_alone accepted listed, lint_restrict ..⟩,
    ⟨_, ofConfig_off accepted listed, lint_restrict ..⟩, ?_⟩
  intro level severity on graded
  refine ⟨_, ofConfig_switch accepted listed on graded, ?_⟩
  rw [lint_regrade]
  apply List.map_congr_left
  intro diagnostic _
  by_cases same : diagnostic.rule.text = name <;> simp [Diagnostic.regrade, same]

/-- Two rules that both report on one element, one of them by a warning. -/
def namesAndTexts : Config :=
  (Config.empty.set "img-uses-alt" ⟨.warn, none⟩).set "no-invalid-aria" ⟨.error, none⟩

theorem lint_of_setting_image :
    let document := Document.ofElement ⟨"img", [⟨"aria-labeled", none⟩]⟩
    ∃ linter alone, ofConfig namesAndTexts = .ok linter ∧
      ofConfig (Config.empty.set "img-uses-alt" ⟨.warn, none⟩) = .ok alone ∧
      (linter.lint document).map Diagnostic.rule = [.imageText, .propertyName] ∧
      alone.lint document =
        (linter.lint document).filter fun diagnostic => diagnostic.rule.text = "img-uses-alt" := by
  intro document
  have accepted : ofConfig namesAndTexts =
      .ok ⟨Ontology.standard, [⟨.imageText ⟨[]⟩, .warning⟩, ⟨.propertyName, .error⟩]⟩ := rfl
  have listed : namesAndTexts.rules.get? "img-uses-alt" = some ⟨.warn, none⟩ := rfl
  rcases (lint_of_setting accepted listed document).1 with ⟨alone, aloneAccepted, reports⟩
  exact ⟨_, alone, accepted, aloneAccepted, rfl, reports⟩

end Linter
end AccessAudit
