import AccessAudit.Lint.Profile
import AccessAudit.Proofs.Lint.Independence
import AccessAudit.Proofs.Lint.Objection
import Mathlib.Data.List.Flatten
import Mathlib.Data.List.Forall2

/-!
# Stricter rules report more

This file compares linters whose rules go by the same names, where each rule of the one reports
whatever its counterpart reports (`ActiveRule.Outdone`). The diagnostics of the laxer linter are
then among those of the stricter one, in the same order (`Linter.lint_sublist`).

The rule on handlers gets stricter with more handlers and fewer exemptions, the rule on repeated
roles with fewer exemptions. The strict profile differs from the recommended one in these two ways
only, so that what it reports in addition comes from these two rules.
-/

namespace AccessAudit

namespace ActiveRule

/-- The second rule reports whatever the first one reports, in the same words and as severely. -/
structure Outdone (lax strict : ActiveRule) : Prop where
  id : strict.rule.id = lax.rule.id
  severity : strict.severity = lax.severity
  onElement : ∀ {ontology : Ontology} {element : Element} {finding : Finding},
    lax.rule.checkElement ontology element = some finding →
      strict.rule.checkElement ontology element = some finding
  onAttribute : ∀ {ontology : Ontology} {element : Element} {attr : Attribute} {finding : Finding},
    lax.rule.checkAttribute ontology element attr = some finding →
      strict.rule.checkAttribute ontology element attr = some finding

namespace Outdone

variable {lax strict : ActiveRule} {rules stricter : List ActiveRule}

theorem refl (active : ActiveRule) : Outdone active active :=
  ⟨rfl, rfl, fun found => found, fun found => found⟩

theorem report_eq (outdone : Outdone lax strict) : strict.report = lax.report := by
  funext node target finding
  rw [report, report, outdone.id, outdone.severity]

/-- One place after the other: where each rule has a counterpart that outdoes it, what the rules
report is among what their counterparts report. -/
theorem reports_sublist (outdone : List.Forall₂ Outdone rules stricter)
    {found : ActiveRule → Option Finding} (node : NodeId) (target : Target)
    (kept : ∀ {lax strict : ActiveRule} {finding : Finding}, Outdone lax strict →
      found lax = some finding → found strict = some finding) :
    (rules.filterMap fun active => (found active).map (active.report node target)).Sublist
      (stricter.filterMap fun active => (found active).map (active.report node target)) := by
  induction outdone with
  | nil => exact .slnil
  | @cons lax strict _ _ outdone _ ih =>
      cases laxFound : found lax with
      | none =>
          rw [List.filterMap_cons_none (by simp [laxFound])]
          exact ih.trans (List.Sublist.filterMap _ (List.sublist_cons_self ..))
      | some finding =>
          have strictFound := kept outdone laxFound
          simpa [laxFound, strictFound, outdone.report_eq] using ih

end Outdone
end ActiveRule

namespace Linter

variable {lax strict : Linter}

theorem lintElement_sublist (ontology : strict.ontology = lax.ontology)
    (outdone : List.Forall₂ ActiveRule.Outdone lax.rules strict.rules) (node : NodeId)
    (element : Element) :
    (lax.lintElement node element).Sublist (strict.lintElement node element) := by
  rw [lintElement, lintElement, ontology]
  refine List.Sublist.append ?_ (List.Sublist.flatMap_right _ ?_)
  · exact ActiveRule.Outdone.reports_sublist outdone node .element
      fun outdone found => outdone.onElement found
  · rintro ⟨attr, index⟩ _
    exact ActiveRule.Outdone.reports_sublist outdone node (.attribute index)
      fun outdone found => outdone.onAttribute found

theorem lint_sublist (ontology : strict.ontology = lax.ontology)
    (outdone : List.Forall₂ ActiveRule.Outdone lax.rules strict.rules) (document : Document) :
    (lax.lint document).Sublist (strict.lint document) := by
  apply List.Sublist.flatMap_right
  rintro ⟨node, element⟩ _
  exact lintElement_sublist ontology outdone node element

/-- Where two linters agree on the rules that are kept, the diagnostics that one of them has in
addition come from the other rules. -/
theorem keep_additional {keep : RuleId → Bool} {document : Document}
    {additional : List Diagnostic} {diagnostic : Diagnostic}
    (agree : strict.restrict keep = lax.restrict keep)
    (parts : (strict.lint document).Perm (lax.lint document ++ additional))
    (member : diagnostic ∈ additional) : keep diagnostic.rule = false := by
  have kept := (parts.filter (keep ·.rule)).length_eq
  rw [← lint_restrict, agree, lint_restrict, List.filter_append, List.length_append] at kept
  have none : additional.filter (keep ·.rule) = [] := List.length_eq_zero_iff.mp (by omega)
  simpa using List.filter_eq_nil_iff.mp none diagnostic member

end Linter

namespace Profile

/-- The linter of a profile. -/
def linter (profile : Profile) : Linter where
  ontology := Ontology.standard
  rules := RuleId.all.map fun id => ⟨Rule.ofOptions id (profile.options? id), .error⟩

theorem ofConfig_config (profile : Profile) :
    Linter.ofConfig profile.config = .ok profile.linter := by
  cases profile <;> rfl

theorem covers_of_no_exemptions (tag name : String) :
    (RoleRedundancy.ofOptions (some strict.redundancyOptions)).exemptions.covers tag name = false :=
  rfl

theorem recommended_outdone :
    List.Forall₂ ActiveRule.Outdone recommended.linter.rules strict.linter.rules := by
  rw [linter, linter, List.forall₂_map_left_iff, List.forall₂_map_right_iff, List.forall₂_same]
  intro id _
  cases id with
  | handlerPlacement =>
      refine ⟨rfl, rfl, ?_, fun found => found⟩
      intro ontology element finding reported
      refine HandlerPlacement.check_of_stricter ?_ ?_ reported
      · decide
      · intro tag name notExempt
        exact notExempt
  | roleRedundancy =>
      refine ⟨rfl, rfl, ?_, fun found => found⟩
      intro ontology element finding reported
      refine RoleRedundancy.check_of_stricter ?_ reported
      intro tag name _
      exact covers_of_no_exemptions tag name
  | _ => exact ActiveRule.Outdone.refl _

/-- The two rules in which the profiles differ. -/
def differing : List RuleId := [.handlerPlacement, .roleRedundancy]

theorem restrict_linter_eq :
    strict.linter.restrict (fun id => id ∉ differing) =
      recommended.linter.restrict fun id => id ∉ differing := by
  rfl

/-- The strict profile reports all that the recommended one reports, in the same order, and what it
reports in addition comes from the rules on handlers and on repeated roles. -/
theorem recommended_sublist_strict (document : Document) :
    ∃ lax strict, Linter.ofConfig Profile.recommended.config = .ok lax ∧
      Linter.ofConfig Profile.strict.config = .ok strict ∧
      (lax.lint document).Sublist (strict.lint document) ∧
      ∃ additional, (strict.lint document).Perm (lax.lint document ++ additional) ∧
        ∀ diagnostic ∈ additional,
          diagnostic.rule = .handlerPlacement ∨ diagnostic.rule = .roleRedundancy := by
  have sameOntology : strict.linter.ontology = recommended.linter.ontology := rfl
  have sublist := Linter.lint_sublist sameOntology recommended_outdone document
  rcases sublist.exists_perm_append with ⟨additional, parts⟩
  refine ⟨_, _, ofConfig_config recommended, ofConfig_config strict, sublist, additional, parts, ?_⟩
  intro diagnostic member
  have notKept := Linter.keep_additional restrict_linter_eq parts member
  have differs : diagnostic.rule ∈ differing := by simpa using notKept
  simpa [differing] using differs

end Profile
end AccessAudit
