import AccessAudit.Proofs.Lint.ReportOrder

/-!
# Which setting a configuration is refused for

Every setting of a configuration is judged, also where it switches its rule off: the rule has to be
known, and the options have to fit it. Settings are judged in the ascending order of the names, so
the error of a configuration that is refused is the one of the smallest name at fault. The rules
that a linter has in force are those of the settings that are not off, in the same order.
-/

namespace AccessAudit

theorem map_eq_error_iff {ε α β : Type} {result : Except ε α} {f : α → β} {cause : ε} :
    result.map f = .error cause ↔ result = .error cause := by
  cases result <;> simp [Except.map]

namespace Setting

variable {name : String} {setting : Setting} {cause otherCause : ConfigError}

/-- What is wrong with a setting: there is no rule of the name, or its options do not fit. -/
inductive RefusedFor (name : String) (setting : Setting) : ConfigError → Prop where
  | unknown (noRule : ∀ id : RuleId, id.text ≠ name) : RefusedFor name setting (.unknownRule name)
  | options {id : RuleId} {fault : OptionFault} (named : id.text = name)
      (refused : id.shape.check setting.options = .error fault) :
      RefusedFor name setting (.invalidOptions name fault)

theorem create_of_refusedFor (refused : RefusedFor name setting cause) :
    Rule.create name setting.options = .error cause := by
  cases refused with
  | unknown noRule =>
      have unknown : RuleId.ofText? name = none := by
        rw [Option.eq_none_iff_forall_ne_some]
        intro id known
        exact noRule id (RuleId.ofText?_eq_some_iff.mp known)
      rw [Rule.create, unknown]
  | options named refused =>
      simp only [Rule.create, RuleId.ofText?_eq_some_iff.mpr named, refused]

theorem RefusedFor.unique (left : RefusedFor name setting cause)
    (right : RefusedFor name setting otherCause) : cause = otherCause := by
  have created := create_of_refusedFor left
  rw [create_of_refusedFor right] at created
  exact (Except.error.inj created).symm

theorem RefusedFor.not_fits (refused : RefusedFor name setting cause) : ¬setting.Fits name := by
  rintro ⟨id, named, fits⟩
  have created := create_of_refusedFor refused
  rw [Rule.create_eq_ok_iff.mpr ⟨id, named, fits, rfl⟩] at created
  cases created

theorem fits_or_refused (name : String) (setting : Setting) :
    setting.Fits name ∨ ∃ cause, RefusedFor name setting cause := by
  by_cases known : ∃ id : RuleId, id.text = name
  · rcases known with ⟨id, named⟩
    cases checked : id.shape.check setting.options with
    | ok _ => exact .inl ⟨id, named, checked⟩
    | error fault => exact .inr ⟨_, .options named checked⟩
  · exact .inr ⟨_, .unknown fun id named => known ⟨id, named⟩⟩

end Setting

namespace Linter

open Setting

variable {name : String} {setting : Setting} {cause : ConfigError}
  {entries rest : List (String × Setting)}

theorem activate_cons_of_refusedFor (refused : RefusedFor name setting cause) :
    activate ((name, setting) :: rest) = .error cause := by
  rw [activate, create_of_refusedFor refused]
  rfl

/-- The first setting at fault is the one that counts. -/
theorem activate_eq_error_iff :
    activate entries = .error cause ↔
      ∃ earlier name setting later, entries = earlier ++ (name, setting) :: later ∧
        (∀ entry ∈ earlier, entry.2.Fits entry.1) ∧ RefusedFor name setting cause := by
  induction entries with
  | nil => simp [activate]
  | cons entry rest ih =>
      rcases entry with ⟨first, firstSetting⟩
      rcases fits_or_refused first firstSetting with fits | ⟨firstCause, refused⟩
      · rw [activate_cons_of_fits fits, map_eq_error_iff, ih]
        constructor
        · rintro ⟨earlier, name, setting, later, rfl, earlierFit, refused⟩
          exact ⟨(first, firstSetting) :: earlier, name, setting, later, rfl,
            List.forall_mem_cons.mpr ⟨fits, earlierFit⟩, refused⟩
        · rintro ⟨earlier, name, setting, later, split, earlierFit, refused⟩
          cases earlier with
          | nil =>
              cases split
              exact absurd fits refused.not_fits
          | cons _ earlier =>
              cases split
              exact ⟨earlier, name, setting, later, rfl, (List.forall_mem_cons.mp earlierFit).2,
                refused⟩
      · rw [activate_cons_of_refusedFor refused]
        constructor
        · rintro ⟨⟩
          exact ⟨[], first, firstSetting, rest, rfl, by simp, refused⟩
        · rintro ⟨earlier, name, setting, later, split, earlierFit, otherRefused⟩
          cases earlier with
          | nil =>
              cases split
              rw [refused.unique otherRefused]
          | cons _ earlier =>
              cases split
              exact absurd (earlierFit _ (List.mem_cons_self ..)) refused.not_fits

/-- A configuration is refused for the setting of the smallest name at fault. -/
theorem ofConfig_eq_error_iff {config : Config} :
    ofConfig config = .error cause ↔
      ∃ name setting, config.rules.get? name = some setting ∧ RefusedFor name setting cause ∧
        ∀ other otherSetting otherCause, config.rules.get? other = some otherSetting →
          RefusedFor other otherSetting otherCause → name ≤ other := by
  have ascending := config.rules.ascending
  simp only [← config.rules.mem_entries]
  rw [ofConfig, map_eq_error_iff, activate_eq_error_iff]
  constructor
  · rintro ⟨earlier, name, setting, later, split, earlierFit, refused⟩
    rw [AscendingKeys, split, List.pairwise_append, List.pairwise_cons] at ascending
    rw [split]
    refine ⟨name, setting, by simp, refused, ?_⟩
    intro other otherSetting otherCause member otherRefused
    rcases List.mem_append.mp member with inEarlier | inRest
    · exact absurd (earlierFit _ inEarlier) otherRefused.not_fits
    · rcases List.mem_cons.mp inRest with same | inLater
      · cases same
        exact String.le_refl _
      · exact String.not_lt.mp (String.lt_asymm (ascending.2.1.1 _ inLater))
  · rintro ⟨name, setting, member, refused, smallest⟩
    rcases List.append_of_mem member with ⟨earlier, later, split⟩
    rw [AscendingKeys, split, List.pairwise_append] at ascending
    rw [split] at smallest ⊢
    refine ⟨earlier, name, setting, later, rfl, ?_, refused⟩
    rintro ⟨other, otherSetting⟩ inEarlier
    rcases fits_or_refused other otherSetting with fits | ⟨otherCause, otherRefused⟩
    · exact fits
    · have above := smallest other otherSetting otherCause (by simp [inEarlier]) otherRefused
      exact absurd (ascending.2.2 _ inEarlier _ (List.mem_cons_self ..)) (String.not_lt.mpr above)

theorem mem_enabled_iff {config : Config} {linter : Linter} {severity : Severity}
    (made : ofConfig config = .ok linter) :
    (∃ id, id.text = name ∧ (id, severity) ∈ linter.enabled) ↔
      ∃ setting, config.rules.get? name = some setting ∧
        setting.level.severity? = some severity := by
  rcases ofConfig_eq_ok_iff.mp made with ⟨fits, rfl⟩
  constructor
  · rintro ⟨id, rfl, member⟩
    rcases List.mem_map.mp member with ⟨active, inForce, same⟩
    cases same
    exact Config.setting_of_mem_activeRules inForce
  · rintro ⟨setting, listed, graded⟩
    have entry := config.rules.mem_entries.mpr listed
    rcases fits _ entry with ⟨id, rfl, _⟩
    refine ⟨id, rfl, List.mem_map.mpr ⟨⟨.ofOptions id setting.options, severity⟩, ?_, ?_⟩⟩
    · refine List.mem_filterMap.mpr ⟨_, entry, ?_⟩
      simp [ActiveRule.ofSetting?_text, graded]
    · simp

/-- A configuration is refused if and only if some setting is at fault, be its rule off or not, and
the error is the one of the smallest name at fault. Otherwise the rules in force are those whose
level is not off, each with the severity of its level, in the strictly ascending order of the
names. -/
theorem ofConfig_refuses_or_enables (config : Config) :
    ((∃ cause, ofConfig config = .error cause) ↔
      ∃ name setting cause, config.rules.get? name = some setting ∧
        RefusedFor name setting cause) ∧
    (∀ cause, ofConfig config = .error cause ↔
      ∃ name setting, config.rules.get? name = some setting ∧ RefusedFor name setting cause ∧
        ∀ other otherSetting otherCause, config.rules.get? other = some otherSetting →
          RefusedFor other otherSetting otherCause → name ≤ other) ∧
    ∀ linter, ofConfig config = .ok linter →
      linter.enabled.Pairwise (fun left right => left.1.text < right.1.text) ∧
      ∀ name severity, (∃ id, id.text = name ∧ (id, severity) ∈ linter.enabled) ↔
        ∃ setting, config.rules.get? name = some setting ∧
          setting.level.severity? = some severity := by
  refine ⟨?_, fun _ => ofConfig_eq_error_iff, ?_⟩
  · constructor
    · rintro ⟨cause, refused⟩
      rcases ofConfig_eq_error_iff.mp refused with ⟨name, setting, listed, atFault, _⟩
      exact ⟨name, setting, cause, listed, atFault⟩
    · rintro ⟨name, setting, cause, listed, atFault⟩
      cases made : ofConfig config with
      | error cause => exact ⟨cause, rfl⟩
      | ok linter =>
          have fits := (ofConfig_eq_ok_iff.mp made).1
          exact absurd (fits _ (config.rules.mem_entries.mpr listed)) atFault.not_fits
  · intro linter made
    refine ⟨?_, fun _ _ => mem_enabled_iff made⟩
    rcases ofConfig_eq_ok_iff.mp made with ⟨_, rfl⟩
    exact List.pairwise_map.mpr config.activeRules_ascending

theorem ofConfig_refuses_or_enables_off :
    let config := (Config.empty.set "unheard-of" ⟨.warn, none⟩).set RuleId.imageText.text
      ⟨.off, some (.integer 42)⟩
    ofConfig config = .error (.invalidOptions RuleId.imageText.text .notNames) := by
  intro config
  have get?_eq (wanted : String) : config.rules.get? wanted =
      if wanted = RuleId.imageText.text then some ⟨.off, some (.integer 42)⟩
      else if wanted = "unheard-of" then some ⟨.warn, none⟩ else none := by
    simp [config, Config.set, Config.empty]
  refine ((ofConfig_refuses_or_enables config).2.1 _).mpr
    ⟨RuleId.imageText.text, _, get?_eq _, .options rfl rfl, ?_⟩
  intro other otherSetting _ listed _
  rw [get?_eq] at listed
  split at listed
  · rename_i same
    subst same
    exact String.le_refl _
  · split at listed
    · rename_i same
      subst same
      decide
    · cases listed

end Linter
end AccessAudit
