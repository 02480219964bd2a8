import AccessAudit.Lint.Rule.HandlerPlacement
import AccessAudit.Lint.Rule.RoleRedundancy
import Mathlib.Data.Option.Basic

/-!
# What the two rules with exemptions object to

Each of the two rules asks several things one after the other. This file says when all of them
hold, so that the rules can be compared without going through their steps again: both object to
more where they exempt less.
-/

namespace AccessAudit

/-- The rule on handlers objects to a handler that is bound and not exempt, on an element that is
known, perceived, and not interactive. -/
theorem HandlerPlacement.check_eq_some_iff {rule : HandlerPlacement} {ontology : Ontology}
    {element : Element} {finding : Finding} :
    rule.check ontology element = some finding ↔
      Vocabulary.isKnown element.tag = true ∧
      (∃ handler ∈ rule.handlers, rule.exemptions.covers element.tag handler = false ∧
        (element.reading handler).isBound = true) ∧
      Interactivity.isHidden element.tag element.attributes = false ∧
      Interactivity.isPresentation element.attributes = false ∧
      Interactivity.classify ontology element.tag element.attributes = .nonInteractive ∧
      finding = .misplacedHandler := by
  have bound : (∃ handler, rule.boundHandler? element = some handler) ↔
      ∃ handler ∈ rule.handlers, rule.exemptions.covers element.tag handler = false ∧
        (element.reading handler).isBound = true := by
    rw [← Option.isSome_iff_exists, boundHandler?, List.find?_isSome]
    simp
  rw [← bound]
  simp only [check, misplaced?, Option.map_eq_some_iff, Option.bind_eq_bind,
    Option.bind_eq_some_iff, Option.guard_eq_some', Bool.not_eq_true', beq_iff_eq]
  constructor
  · rintro ⟨_, ⟨_, known, handler, found, _, shown, _, semantic, _, classified, _⟩, rfl⟩
    exact ⟨known, ⟨handler, found⟩, shown, semantic, classified, rfl⟩
  · rintro ⟨known, ⟨handler, found⟩, shown, semantic, classified, rfl⟩
    exact ⟨handler, ⟨(), known, handler, found, (), shown, (), semantic, (), classified, rfl⟩, rfl⟩

theorem HandlerPlacement.check_of_stricter {lax strict : HandlerPlacement} {ontology : Ontology}
    {element : Element} {finding : Finding} (handlers : lax.handlers ⊆ strict.handlers)
    (exemptions : ∀ tag name, lax.exemptions.covers tag name = false →
      strict.exemptions.covers tag name = false)
    (reported : lax.check ontology element = some finding) :
    strict.check ontology element = some finding := by
  rw [check_eq_some_iff] at reported ⊢
  rcases reported with ⟨known, ⟨handler, configured, notExempt, bound⟩, rest⟩
  exact ⟨known, ⟨handler, handlers configured, exemptions _ _ notExempt, bound⟩, rest⟩

/-- The rule on repeated roles objects to an explicit role that is the implicit one, and not
exempt. -/
theorem RoleRedundancy.check_eq_some_iff {rule : RoleRedundancy} {ontology : Ontology}
    {element : Element} {finding : Finding} :
    rule.check ontology element = some finding ↔
      Vocabulary.isKnown element.tag = true ∧
      ∃ explicit implicit, explicitRole? ontology element = some explicit ∧
        ontology.implicitRole? element.tag element.attributes = some implicit ∧
        Text.eqIgnoringCase explicit implicit = true ∧
        rule.exemptions.covers element.tag implicit = false ∧
        finding = .redundantRole element.tag implicit := by
  simp only [check, Option.bind_eq_bind, Option.bind_eq_some_iff, Option.guard_eq_some',
    Bool.not_eq_true']
  constructor
  · rintro ⟨_, known, explicit, said, implicit, meant, _, same, _, notExempt, reported⟩
    exact ⟨known, explicit, implicit, said, meant, same, notExempt, (Option.some.inj reported).symm⟩
  · rintro ⟨known, explicit, implicit, said, meant, same, notExempt, rfl⟩
    exact ⟨(), known, explicit, said, implicit, meant, (), same, (), notExempt, rfl⟩

theorem RoleRedundancy.check_of_stricter {lax strict : RoleRedundancy} {ontology : Ontology}
    {element : Element} {finding : Finding}
    (exemptions : ∀ tag name, lax.exemptions.covers tag name = false →
      strict.exemptions.covers tag name = false)
    (reported : lax.check ontology element = some finding) :
    strict.check ontology element = some finding := by
  rw [check_eq_some_iff] at reported ⊢
  rcases reported with ⟨known, explicit, implicit, said, meant, same, notExempt, rest⟩
  exact ⟨known, explicit, implicit, said, meant, same, exemptions _ _ notExempt, rest⟩

end AccessAudit
