import AccessAudit.Proofs.Lint.Likeness
import AccessAudit.Proofs.Lint.ReportOrder

/-!
# Shadowed attributes

Of several attributes of one name the first counts. This file proves that the others are not seen
by anyone but the rules that look at them one by one: an attribute whose name is taken can be
appended to an element, and neither what is said of the element as a whole nor what is said of its
other attributes changes.

Everything that looks attributes up finds what it found before
(`Attribute.find?_append_of_shadowed`), so the element with the attribute and the one without it are
alike.
-/

namespace AccessAudit

namespace Attribute

variable {attributes : List Attribute} {attr shadowing : Attribute}

theorem find?_append_of_shadowed (written : shadowing ∈ attributes)
    (sameName : shadowing.isNamed attr.name = true) (name : String) :
    find? (attributes ++ [attr]) name = find? attributes name := by
  rw [find?, List.find?_append, ← find?]
  cases found : find? attributes name with
  | some first => rfl
  | none =>
      have notShadowing : ¬shadowing.isNamed name = true :=
        List.find?_eq_none.mp found shadowing written
      have notNamed : ¬attr.isNamed name = true := by
        intro named
        apply notShadowing
        rw [isNamed, Text.eqIgnoringCase_iff] at sameName named ⊢
        rw [sameName, named]
      simp [notNamed]

end Attribute

namespace Element

variable {element : Element} {attr shadowing : Attribute}

/-- The element with further attributes behind its own. -/
def append (element : Element) (further : List Attribute) : Element :=
  { element with attributes := element.attributes ++ further }

theorem alike_append_of_shadowed (written : shadowing ∈ element.attributes)
    (sameName : shadowing.isNamed attr.name = true) : element.Alike (element.append [attr]) :=
  .of_find? rfl (Attribute.find?_append_of_shadowed written sameName)

end Element

namespace Linter

variable {linter : Linter} {node : NodeId} {element : Element} {attr shadowing : Attribute}

/-- Where an appended attribute leaves the element alike, the rules in force say of it what they
would say of it anyway, and nothing else is new. -/
theorem lintElement_append_of_alike (alike : element.Alike (element.append [attr])) :
    linter.lintElement node (element.append [attr]) =
      linter.lintElement node element ++
        linter.rules.filterMap
          (·.onAttribute? linter.ontology node element attr element.attributes.length) := by
  have onElement : ∀ active : ActiveRule,
      active.onElement? linter.ontology node (element.append [attr]) =
        active.onElement? linter.ontology node element := by
    intro active
    rw [ActiveRule.onElement?, ActiveRule.onElement?, Rule.checkElement_eq_of_alike alike rfl]
  have onAttribute : ∀ (active : ActiveRule) (other : Attribute) (index : Nat),
      active.onAttribute? linter.ontology node (element.append [attr]) other index =
        active.onAttribute? linter.ontology node element other index := by
    intro active other index
    rw [ActiveRule.onAttribute?, ActiveRule.onAttribute?, Rule.checkAttribute_eq_of_alike alike]
  simp only [lintElement, onElement, onAttribute]
  simp [Element.append, List.zipIdx_append]

open Interactivity

/-- An attribute whose name is taken, ignoring case, can be appended to an element: what is reported
of it comes behind what is reported anyway, and the interactivity of the element, its implicit
roles, whether it is hidden or presentational and what each rule says of it as a whole stay the
same. -/
theorem lintElement_append_shadowed (linter : Linter) (node : NodeId) (element : Element)
    (attr shadowing : Attribute) (written : shadowing ∈ element.attributes)
    (sameName : Text.eqIgnoringCase shadowing.name attr.name = true) :
    (∃ further, linter.lintElement node (element.append [attr]) =
        linter.lintElement node element ++ further ∧
      ∀ diagnostic ∈ further, diagnostic.node = node ∧
        diagnostic.target = .attribute element.attributes.length) ∧
    (∀ ontology : Ontology,
      classify ontology element.tag (element.append [attr]).attributes =
        classify ontology element.tag element.attributes ∧
      ontology.implicitRoles? element.tag (element.append [attr]).attributes =
        ontology.implicitRoles? element.tag element.attributes ∧
      ∀ rule : Rule, rule.checkElement ontology (element.append [attr]) =
        rule.checkElement ontology element) ∧
    isHidden element.tag (element.append [attr]).attributes =
      isHidden element.tag element.attributes ∧
    isPresentation (element.append [attr]).attributes = isPresentation element.attributes := by
  have alike : element.Alike (element.append [attr]) :=
    Element.alike_append_of_shadowed written sameName
  refine ⟨⟨_, lintElement_append_of_alike alike, ?_⟩, ?_, isHidden_of_alike alike,
    isPresentation_of_alike alike⟩
  · intro diagnostic reported
    rcases List.mem_filterMap.mp reported with ⟨active, _, onAttribute⟩
    rcases Option.map_eq_some_iff.mp onAttribute with ⟨finding, _, rfl⟩
    exact ⟨rfl, rfl⟩
  · intro ontology
    refine ⟨classify_of_alike alike, Ontology.implicitRoles?_of_alike alike, ?_⟩
    intro rule
    exact Rule.checkElement_eq_of_alike alike rfl

theorem lintElement_append_shadowed_image :
    let linter : Linter := ⟨Ontology.empty, [⟨.imageText ⟨[]⟩, .error⟩, ⟨.tabOrder, .warning⟩]⟩
    let shadowing : Attribute := ⟨"tabIndex", some (.literal (.string "5"))⟩
    let attr : Attribute := ⟨"TABINDEX", some (.literal (.string "7"))⟩
    let element : Element := ⟨"img", [shadowing, ⟨"lang", none⟩]⟩
    (linter.lintElement ⟨1⟩ (element.append [attr])).map Diagnostic.place =
        [(⟨1⟩, .element, .imageText), (⟨1⟩, .attribute 0, .tabOrder),
          (⟨1⟩, .attribute 2, .tabOrder)] ∧
      ∃ further, linter.lintElement ⟨1⟩ (element.append [attr]) =
          linter.lintElement ⟨1⟩ element ++ further ∧
        ∀ diagnostic ∈ further, diagnostic.node = ⟨1⟩ ∧ diagnostic.target = .attribute 2 := by
  intro linter shadowing attr element
  have sameName : Text.eqIgnoringCase shadowing.name attr.name = true := by decide
  have inert := lintElement_append_shadowed linter ⟨1⟩ element attr shadowing (by simp [element])
    sameName
  exact ⟨by decide +kernel, inert.1⟩

end Linter
end AccessAudit
