import AccessAudit.Lint.ConfigText
import AccessAudit.Proofs.Json.Agreement
import AccessAudit.Proofs.Lint.ConfigForm

/-!
# Configurations read from text

The text of a configuration is judged while it is read, and no JSON value of it is made. This file
proves that it comes to the same: a text that is read as a configuration, and as a JSON value, is
the configuration of that value. The two readers are followed side by side; what relates them is
that the settings so far are those of the members so far.

The converse fails. Of a member that comes twice a value has the last one only, while a text is
refused for either.
-/

namespace AccessAudit

theorem forall₂_insertEntry {key : String} {json : Json} {setting : Setting}
    {members : List (String × Json)} {settings : List (String × Setting)}
    (read : Setting.ofJson json = .ok setting)
    (readAs : List.Forall₂ Config.ReadsAs members settings) :
    List.Forall₂ Config.ReadsAs (insertEntry key json members)
      (insertEntry key setting settings) := by
  induction readAs with
  | nil => exact .cons ⟨rfl, read⟩ .nil
  | cons first rest ih =>
      rename_i member entry members settings
      rcases member with ⟨name, value⟩
      rcases entry with ⟨_, kept⟩
      rcases first with ⟨⟨⟩, isSetting⟩
      unfold insertEntry
      split
      · exact .cons ⟨rfl, read⟩ (.cons ⟨rfl, isSetting⟩ rest)
      · split
        · exact .cons ⟨rfl, read⟩ rest
        · exact .cons ⟨rfl, isSetting⟩ ih

namespace ConfigReader

open Json.Reader

variable {α β Other : Type} {budget otherBudget depth : Nat}

theorem agree_wrongKind {related : α → β → Prop} (expected : Expected)
    (right : Json.Reader Other β) : Agree related (wrongKind expected : ConfigReader α) right := by
  apply Agree.of_left_fails
  rintro chars ⟨result, rest⟩ read
  rcases bind_eq_ok_iff.mp read with ⟨_, _, _, continued⟩
  split at continued
  all_goals
    rcases bind_eq_ok_iff.mp continued with ⟨_, _, _, rejected⟩
    cases rejected

/-- The settings so far are those of the members so far. -/
def Settled (config : Config) (members : List (String × Json)) : Prop :=
  List.Forall₂ Config.ReadsAs members config.rules.entries

theorem ofRules_of_settled {config : Config} {members : List (String × Json)}
    (settled : Settled config members) : Config.ofRules (.object members) = .ok config :=
  Config.ofRules_eq_ok_iff.mpr
    ⟨config.rules.entries, settled, config.rules.ofEntries_entries.symm⟩

theorem settled_of_addMember {config extended : Config} {members : List (String × Json)}
    {rule : String} {json : Json} (settled : Settled config members)
    (added : config.addMember rule json = .ok extended) :
    Settled extended (insertEntry rule json members) := by
  unfold Config.addMember at added
  split at added
  · rename_i isSetting
    cases added
    exact forall₂_insertEntry isSetting settled
  · cases added

theorem agree_rules :
    Agree (fun config json => Config.ofRules json = .ok config) (rules budget)
      (value .keep otherBudget (depth + 1) : Json.Reader Other Json) := by
  rw [value]
  apply Agree.peek_bind
  intro start
  split
  · apply Agree.advance_bind
    have initial : Settled Config.empty [] := List.Forall₂.nil
    apply (agree_members _ budget otherBudget initial).map_right
    · intro config fields settled
      exact ofRules_of_settled settled
    · intro config fields rule otherRule settled same
      rw [← same rfl]
      apply Agree.colon_bind
      apply (agree_value budget otherBudget settingDepth depth).bind
      intro json otherJson sameJson
      rw [← sameJson rfl]
      split
      · rename_i added
        exact Agree.pure (settled_of_addMember settled added)
      · exact Agree.reject_left _
  · exact agree_wrongKind .rules _

/-- The rules found so far are those among the members so far. -/
structure FoundIn (found : Option Config) (members : List (String × Json)) : Prop where
  reads : Config.ofJson (.object members) = .ok (found.getD Config.empty)
  absent : found = none → members.filter (fun entry => entry.1 == "rules") = []

theorem foundIn_of_ne {found : Option Config} {members : List (String × Json)} {key : String}
    {json : Json} (foundIn : FoundIn found members) (different : key ≠ "rules") :
    FoundIn found (insertEntry key json members) := by
  have sameRules := filter_insertEntry_of_ne json different members
  refine ⟨?_, ?_⟩
  · simpa [Config.ofJson, sameRules] using foundIn.reads
  · simpa [sameRules] using foundIn.absent

theorem foundIn_rules {config : Config} {members : List (String × Json)} {json : Json}
    (absent : members.filter (fun entry => entry.1 == "rules") = [])
    (read : Config.ofRules json = .ok config) :
    FoundIn (some config) (insertEntry "rules" json members) := by
  refine ⟨?_, by simp⟩
  simpa [Config.ofJson, filter_insertEntry_of_absent absent] using read

theorem agree_member {found : Option Config} {fields : List (String × Json)}
    (foundIn : FoundIn found fields) (key : String) :
    Agree FoundIn (member budget found key) (do
      colon
      return insertEntry key (← value .keep otherBudget (depth + 1)) fields :
        Json.Reader Other (List (String × Json))) := by
  unfold member
  split
  · rename_i isRules
    subst isRules
    split
    · exact Agree.reject_left _
    · rename_i notFound
      apply Agree.colon_bind
      apply agree_rules.bind
      intro config json read
      exact Agree.pure (foundIn_rules (foundIn.absent (by simpa using notFound)) read)
  · rename_i different
    apply Agree.colon_bind
    apply (agree_skipValue budget otherBudget (depth + 1)).bind
    intro _ _ _
    exact Agree.pure (foundIn_of_ne foundIn different)

theorem agree_arrayForm {itemBudget : Nat} :
    Agree (fun config values => Config.ofJson (.array values) = .ok config) (arrayForm budget)
      (items otherBudget (value .keep itemBudget (depth + 1)) : Json.Reader Other (List Json)) := by
  apply Agree.peek_bind
  intro start
  by_cases closed : start = some ']'
  · subst closed
    apply Agree.advance_bind
    exact Agree.pure rfl
  · simp only
    cases otherBudget with
    | zero => exact Agree.malformed_right
    | succ otherBudget =>
        apply agree_rules.bind
        intro config json read
        apply Agree.peek_bind
        intro start
        split
        · apply Agree.advance_bind
          exact Agree.pure read
        · exact Agree.malformed_left

theorem agree_config :
    Agree (fun config json => Config.ofJson json = .ok config) (config budget)
      (value .keep otherBudget (depth + 2) : Json.Reader Other Json) := by
  rw [value]
  apply Agree.peek_bind
  intro start
  split
  · apply Agree.advance_bind
    have initial : FoundIn none [] := ⟨rfl, fun _ => rfl⟩
    apply (agree_members _ budget otherBudget initial).bind
    · intro found fields foundIn
      exact Agree.pure foundIn.reads
    · intro found fields key otherKey foundIn same
      rw [← same rfl]
      exact agree_member foundIn key
  · apply Agree.advance_bind
    apply agree_arrayForm.map_right
    intro config values read
    exact read
  · exact agree_wrongKind .config _

end ConfigReader

namespace Config

/-- What a text is read as is what its value is read as. -/
theorem ofJson_of_ofText {text : String} {json : Json} {config : Config}
    (isJson : Json.ofText? text = some json) (isConfig : ofText text = .ok config) :
    ofJson json = .ok config := by
  unfold Json.ofText? at isJson
  split at isJson
  · rename_i ran
    cases isJson
    exact Json.Reader.Agree.run (fun budget => ConfigReader.agree_config) isConfig ran
  · cases isJson

/-- A text with numbers for levels, a list of a level, options that are `null`, a rule that is set
twice, and a member that is no rule. -/
def variedText : String :=
  "\x7b\"x\": 0, \"rules\": \x7b\"b\": 1, \"a\": [2], \"c\": [\"off\", null], \"b\": 0\x7d\x7d"

theorem ofJson_of_variedText : ∃ json config, Json.ofText? variedText = some json ∧
    ofText variedText = .ok config ∧ ofJson json = .ok config ∧
    config.rules.keys = ["a", "b", "c"] := by
  have isJson : (Json.ofText? variedText).isSome = true := by decide +kernel
  have isConfig : (ofText variedText).toOption.map (·.rules.keys) = some ["a", "b", "c"] := by
    decide +kernel
  rcases Option.isSome_iff_exists.mp isJson with ⟨json, read⟩
  cases accepted : ofText variedText with
  | error fault =>
      rw [accepted] at isConfig
      cases isConfig
  | ok config =>
      rw [accepted] at isConfig
      exact ⟨json, config, read, rfl, ofJson_of_ofText read accepted, Option.some.inj isConfig⟩

end Config
end AccessAudit
