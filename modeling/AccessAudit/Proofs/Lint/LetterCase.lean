import AccessAudit.Proofs.Lint.Likeness
import Mathlib.Data.List.Forall2

/-!
# Linting ignores case

This file proves that two elements which differ only in the case of letters have the same
diagnostics, up to the case of letters in the messages. The letters may be those of the tag, of the
names of attributes, and of strings that are given as roles; in all other values case may matter.

Names of components are compared exactly where the rule on images has any, so these are left out.
-/

namespace AccessAudit

theorem Attribute.readAlike_of_forall₂ {left right : List Attribute}
    (alike : List.Forall₂ Alike left right) : ReadAlike left right := by
  intro name
  induction alike with
  | nil => exact .refl _
  | @cons attr other _ _ first _ ih =>
      simp only [readingOf, find?, List.find?_cons, first.isNamed_eq] at ih ⊢
      cases attr.isNamed name with
      | true => exact first.readAlike
      | false => exact ih

namespace Element

/-- The tags agree ignoring case, and so do the attributes one by one. -/
structure AgreesIgnoringCase (left right : Element) : Prop where
  tag : Text.eqIgnoringCase left.tag right.tag = true
  attributes : List.Forall₂ Attribute.Alike left.attributes right.attributes

theorem AgreesIgnoringCase.alike {left right : Element} (agrees : left.AgreesIgnoringCase right) :
    left.Alike right :=
  ⟨Text.eqIgnoringCase_iff.mp agrees.tag, Attribute.readAlike_of_forall₂ agrees.attributes⟩

end Element

/-- The diagnostics are the same but for the case of letters in their messages. -/
structure Diagnostic.AgreesIgnoringCase (left right : Diagnostic) : Prop where
  rule : left.rule = right.rule
  severity : left.severity = right.severity
  node : left.node = right.node
  target : left.target = right.target
  message : Text.lower left.message = Text.lower right.message

namespace ActiveRule

variable {active : ActiveRule} {ontology : Ontology} {left right : Element}

theorem reports_agree {leftText rightText : String}
    (agree : Text.lower leftText = Text.lower rightText) {found : Option Finding}
    (cites : found = found.map (Finding.citing leftText)) (node : NodeId) (target : Target) :
    Option.Rel Diagnostic.AgreesIgnoringCase (found.map (active.report node target))
      ((found.map (Finding.citing rightText)).map (active.report node target)) := by
  cases found with
  | none => exact .none
  | some finding =>
      refine .some ⟨rfl, rfl, rfl, rfl, ?_⟩
      have message := finding.lower_message_citing agree
      rw [← Option.some.inj cites] at message
      exact message

theorem onElement?_agrees (alike : left.Alike right)
    (applies : active.rule.AppliesAlike left right) (node : NodeId) :
    Option.Rel Diagnostic.AgreesIgnoringCase (active.onElement? ontology node left)
      (active.onElement? ontology node right) := by
  simp only [onElement?, Rule.checkElement_of_alike alike applies]
  apply reports_agree alike.tag
  exact Rule.checkElement_of_alike (.refl left) fun _ _ => rfl

theorem onAttribute?_agrees (alike : left.Alike right) {attr other : Attribute}
    (attrAlike : attr.Alike other) (node : NodeId) (index : Nat) :
    Option.Rel Diagnostic.AgreesIgnoringCase (active.onAttribute? ontology node left attr index)
      (active.onAttribute? ontology node right other index) := by
  simp only [onAttribute?, Rule.checkAttribute_of_alike alike attrAlike]
  apply reports_agree attrAlike.name
  exact Rule.checkAttribute_of_alike (.refl left) (.refl attr)

end ActiveRule

theorem Attribute.forall₂_zipIdx {left right : List Attribute}
    (alike : List.Forall₂ Alike left right) (start : Nat) :
    List.Forall₂ (fun written other => written.1.Alike other.1 ∧ written.2 = other.2)
      (left.zipIdx start) (right.zipIdx start) := by
  induction alike generalizing start with
  | nil => exact .nil
  | cons first _ ih => exact .cons ⟨first, rfl⟩ (ih (start + 1))

namespace Linter

/-- Rules that report alike one by one report alike together. -/
theorem reports_forall₂ {rules : List ActiveRule} {left right : ActiveRule → Option Diagnostic}
    (agree : ∀ active ∈ rules,
      Option.Rel Diagnostic.AgreesIgnoringCase (left active) (right active)) :
    List.Forall₂ Diagnostic.AgreesIgnoringCase (rules.filterMap left) (rules.filterMap right) := by
  have same : List.Forall₂ (fun active other => active = other ∧ active ∈ rules) rules rules :=
    List.forall₂_same.mpr fun active enabled => ⟨rfl, enabled⟩
  refine List.rel_filterMap ?_ same
  rintro active _ ⟨rfl, enabled⟩
  exact agree active enabled

/-- Elements that differ only in the case of letters have the same diagnostics one by one, with
messages that differ in no more. -/
theorem lintElement_ignoring_case {linter : Linter}
    (noComponents : ∀ active ∈ linter.rules, ∀ images, active.rule = .imageText images →
      images.components = [])
    {left right : Element} (agrees : left.AgreesIgnoringCase right) (node : NodeId) :
    List.Forall₂ Diagnostic.AgreesIgnoringCase (linter.lintElement node left)
      (linter.lintElement node right) := by
  have alike := agrees.alike
  have applies : ∀ active ∈ linter.rules, active.rule.AppliesAlike left right := by
    intro active enabled images isRule
    simp [ImageText.appliesTo, noComponents active enabled images isRule, Text.eqIgnoringCase,
      alike.tag]
  apply List.rel_append
  · apply reports_forall₂
    intro active enabled
    exact ActiveRule.onElement?_agrees alike (applies active enabled) node
  · refine List.rel_flatMap (Attribute.forall₂_zipIdx agrees.attributes 0) ?_
    rintro ⟨attr, index⟩ ⟨other, _⟩ ⟨attrAlike, rfl⟩
    apply reports_forall₂
    intro active _
    exact ActiveRule.onAttribute?_agrees alike attrAlike node index

theorem lintElement_ignoring_case_image :
    let linter : Linter := ⟨Ontology.empty,
      [⟨.imageText ⟨[]⟩, .error⟩, ⟨.propertyName, .warning⟩, ⟨.roleName, .error⟩]⟩
    let left : Element :=
      ⟨"img", [⟨"aria-labeled", none⟩, ⟨"role", some (.literal (.string "figure"))⟩]⟩
    let right : Element :=
      ⟨"Img", [⟨"ARIA-labeled", none⟩, ⟨"Role", some (.literal (.string "FIGURE"))⟩]⟩
    (linter.lintElement ⟨1⟩ left).map Diagnostic.message =
      ["img elements must have an alt tag.",
        "aria-labeled: This attribute is an invalid ARIA attribute.",
        "Elements with ARIA roles must use a valid, non-abstract ARIA role."] ∧
      List.Forall₂ Diagnostic.AgreesIgnoringCase (linter.lintElement ⟨1⟩ left)
        (linter.lintElement ⟨1⟩ right) := by
  intro linter left right
  have agrees : left.AgreesIgnoringCase right := by
    refine ⟨by decide, .cons ⟨by decide, .inl rfl⟩ (.cons ⟨by decide, .inr ⟨by decide, ?_⟩⟩ .nil)⟩
    exact .strings (by decide)
  refine ⟨by decide +kernel, lintElement_ignoring_case ?_ agrees ⟨1⟩⟩
  intro active enabled images isRule
  simp only [linter, List.mem_cons, List.not_mem_nil, or_false] at enabled
  rcases enabled with rfl | rfl | rfl
  · cases isRule
    rfl
  · cases isRule
  · cases isRule

end Linter
end AccessAudit
