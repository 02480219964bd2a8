import AccessAudit.Proofs.Document.Order
import AccessAudit.Proofs.Lint.Activation
import AccessAudit.Proofs.Lint.Conservative

/-!
# The order of a report

This file proves in which order the diagnostics of a document are reported, that no two of them
are about the same place and rule, and what each of them is about.

There are two loops inside each other, over places and over rules. Rules are in force in the
ascending order of their names, since settings are kept so (`Config.activeRules_ascending`); the
diagnostics of one place are therefore in that order, and the places of an element follow each
other as written (`Linter.lintElement_ordered`). Elements are met once each, in document order.
-/

namespace AccessAudit

namespace Target

/-- The element as a whole comes before its attributes, and these come as they are written. -/
def Before : Target → Target → Prop
  | .element, .attribute _ => True
  | .attribute left, .attribute right => left < right
  | _, .element => False

theorem Before.ne {left right : Target} (before : left.Before right) : left ≠ right := by
  rintro rfl
  cases left <;> simp [Before] at before

end Target

namespace Diagnostic

/-- The first diagnostic is about an earlier place, or about the same one and by a rule with a
smaller name. -/
def Precedes (left right : Diagnostic) : Prop :=
  left.target.Before right.target ∨
    (left.target = right.target ∧ left.rule.text < right.rule.text)

/-- What a diagnostic is about, and the rule that speaks. -/
def place (diagnostic : Diagnostic) : NodeId × Target × RuleId :=
  (diagnostic.node, diagnostic.target, diagnostic.rule)

theorem Precedes.place_ne {left right : Diagnostic} (precedes : left.Precedes right) :
    left.place ≠ right.place := by
  intro same
  simp only [place, Prod.mk.injEq] at same
  rcases precedes with before | ⟨_, below⟩
  · exact before.ne same.2.1
  · rw [same.2.2] at below
    exact String.lt_irrefl _ below

end Diagnostic

namespace Config

theorem activeRules_ascending (config : Config) :
    config.activeRules.Pairwise fun left right => left.rule.id.text < right.rule.id.text := by
  rw [activeRules, List.pairwise_filterMap]
  refine config.rules.ascending.imp ?_
  intro left right below active inForce other otherInForce
  rw [(ActiveRule.ofSetting?_eq_some inForce).1, (ActiveRule.ofSetting?_eq_some otherInForce).1]
  exact below

theorem setting_of_mem_activeRules {config : Config} {active : ActiveRule}
    (member : active ∈ config.activeRules) :
    ∃ setting, config.rules.get? active.rule.id.text = some setting ∧
      setting.level.severity? = some active.severity := by
  rcases List.mem_filterMap.mp member with ⟨⟨name, setting⟩, entry, inForce⟩
  rcases ActiveRule.ofSetting?_eq_some inForce with ⟨named, graded⟩
  refine ⟨setting, ?_, graded⟩
  rw [named]
  exact config.rules.mem_entries.mp entry

end Config

namespace Linter

variable {linter : Linter} {document : Document}

/-- The diagnostics of one place are in the order of the rules. -/
theorem reports_ordered {rules : List ActiveRule}
    (ascending : rules.Pairwise fun left right => left.rule.id.text < right.rule.id.text)
    (found : ActiveRule → Option Finding) (node : NodeId) (target : Target) :
    (rules.filterMap fun active => (found active).map (active.report node target)).Pairwise
      Diagnostic.Precedes := by
  rw [List.pairwise_filterMap]
  refine ascending.imp ?_
  intro active other below left leftReported right rightReported
  rcases Option.map_eq_some_iff.mp leftReported with ⟨_, _, rfl⟩
  rcases Option.map_eq_some_iff.mp rightReported with ⟨_, _, rfl⟩
  exact Or.inr ⟨rfl, below⟩

theorem target_of_mem_reports {rules : List ActiveRule} {found : ActiveRule → Option Finding}
    {node : NodeId} {target : Target} {diagnostic : Diagnostic}
    (member : diagnostic ∈
      rules.filterMap fun active => (found active).map (active.report node target)) :
    diagnostic.target = target := by
  rcases List.mem_filterMap.mp member with ⟨active, _, reported⟩
  rcases Option.map_eq_some_iff.mp reported with ⟨_, _, rfl⟩
  rfl

theorem lintElement_ordered
    (ascending : linter.rules.Pairwise fun left right => left.rule.id.text < right.rule.id.text)
    (node : NodeId) (element : Element) :
    (linter.lintElement node element).Pairwise Diagnostic.Precedes := by
  have indices : element.attributes.zipIdx.Pairwise fun left right => left.2 < right.2 := by
    rw [← List.pairwise_map (f := Prod.snd), List.zipIdx_map_snd]
    exact List.pairwise_lt_range'
  rw [lintElement, List.pairwise_append, List.pairwise_flatMap]
  refine ⟨reports_ordered ascending _ node .element, ⟨?_, ?_⟩, ?_⟩
  · intro written _
    exact reports_ordered ascending _ node (.attribute written.2)
  · refine indices.imp ?_
    intro left right below first inLeft second inRight
    left
    rw [target_of_mem_reports inLeft, target_of_mem_reports inRight]
    exact below
  · intro first onElement second onAttribute
    rcases List.mem_flatMap.mp onAttribute with ⟨written, _, reported⟩
    left
    rw [target_of_mem_reports onElement, target_of_mem_reports reported]
    trivial

/-- Each diagnostic of an element bears the element's name, comes from a rule in force, and is
about the element as a whole or one of its attributes. -/
theorem source_of_mem_lintElement {node : NodeId} {element : Element} {diagnostic : Diagnostic}
    (member : diagnostic ∈ linter.lintElement node element) :
    diagnostic.node = node ∧
      (∃ active ∈ linter.rules,
        diagnostic.rule = active.rule.id ∧ diagnostic.severity = active.severity) ∧
      ∀ index, diagnostic.target = .attribute index → index < element.attributes.length := by
  rcases mem_lintElement.mp member with ⟨active, enabled, reported⟩ |
    ⟨attr, index, written, reported⟩
  · rcases Option.map_eq_some_iff.mp reported with ⟨_, _, rfl⟩
    exact ⟨rfl, ⟨active, enabled, rfl, rfl⟩, by simp [ActiveRule.report]⟩
  · rcases reported with ⟨active, enabled, reported⟩
    rcases Option.map_eq_some_iff.mp reported with ⟨_, _, rfl⟩
    refine ⟨rfl, ⟨active, enabled, rfl, rfl⟩, ?_⟩
    rintro _ ⟨rfl⟩
    exact List.snd_lt_of_mem_zipIdx written

theorem lint_eq_flatMap {order : List NodeId}
    (listing : document.elements = order.filterMap document.listed?) :
    linter.lint document =
      order.flatMap fun id => (document.element? id).toList.flatMap (linter.lintElement id) := by
  rw [lint, listing, List.filterMap_eq_flatMap_toList, List.flatMap_assoc]
  apply List.flatMap_congr
  intro id _
  cases holds : document.element? id <;> simp [Document.listed?, holds]

/-- Diagnostics of one node stand in order, and nodes come once each. -/
theorem lint_ordered (nodes : (document.elements.map Prod.fst).Nodup)
    (ascending : linter.rules.Pairwise fun left right => left.rule.id.text < right.rule.id.text) :
    (linter.lint document).Pairwise fun left right =>
      left.node = right.node → left.Precedes right := by
  rw [lint, List.pairwise_flatMap]
  constructor
  · rintro ⟨node, element⟩ _
    refine (lintElement_ordered ascending node element).imp ?_
    intro left right precedes _
    exact precedes
  · refine (List.pairwise_map.mp nodes).imp ?_
    intro left right different first inLeft second inRight same
    rw [(source_of_mem_lintElement inLeft).1, (source_of_mem_lintElement inRight).1] at same
    exact absurd same different

/-- The diagnostics of a document are those of its attached elements in document order. No two of
them share node, place and rule; those of one node are in the order of places and then of the
names of rules; each is about something that is there, and as severe as its rule is set to be. -/
theorem lint_in_document_order {config : Config} (accepted : ofConfig config = .ok linter)
    (constructed : document.Constructed) :
    (∃ order, document.Preorder [NodeId.root] order ∧
      (∀ id, id ∈ order ↔ document.Attached id) ∧
      linter.lint document =
        order.flatMap fun id => (document.element? id).toList.flatMap (linter.lintElement id)) ∧
    ((linter.lint document).map Diagnostic.place).Nodup ∧
    ((linter.lint document).Pairwise fun left right =>
      left.node = right.node → left.Precedes right) ∧
    ∀ diagnostic ∈ linter.lint document,
      (∃ element, document.element? diagnostic.node = some element ∧
        ∀ index, diagnostic.target = .attribute index → index < element.attributes.length) ∧
      ∃ setting, config.rules.get? diagnostic.rule.text = some setting ∧
        setting.level.severity? = some diagnostic.severity := by
  have inForce : linter.rules = config.activeRules := by
    rw [(ofConfig_eq_ok_iff.mp accepted).2]
  have ascending := config.activeRules_ascending
  rw [← inForce] at ascending
  have wellFormed := constructed.wellFormed
  rcases Document.Preorder.of_attached wellFormed Relation.ReflTransGen.refl with ⟨order, ordered⟩
  have listing := ordered.elements_eq wellFormed
  have nodes : (document.elements.map Prod.fst).Nodup := by
    rw [listing, Document.map_fst_filterMap_listed?]
    exact (ordered.nodup_of_root wellFormed).filter _
  have inOrder := lint_ordered nodes ascending
  refine ⟨⟨order, ordered, fun id => ordered.mem_iff_attached, lint_eq_flatMap listing⟩, ?_,
    inOrder, ?_⟩
  · rw [List.nodup_iff_pairwise_ne, List.pairwise_map]
    refine inOrder.imp ?_
    intro left right precedes same
    exact (precedes (congrArg Prod.fst same)).place_ne same
  · intro diagnostic member
    rcases List.mem_flatMap.mp member with ⟨⟨node, element⟩, listed, reported⟩
    rcases source_of_mem_lintElement reported with ⟨rfl, ⟨active, enabled, named, graded⟩, within⟩
    rw [listing] at listed
    rcases List.mem_filterMap.mp listed with ⟨id, _, met⟩
    rcases Document.listed?_eq_some_iff.mp met with ⟨rfl, holds⟩
    refine ⟨⟨element, holds, within⟩, ?_⟩
    rw [named, graded]
    rw [inForce] at enabled
    exact Config.setting_of_mem_activeRules enabled

/-- A rule that is off, beside two of other names and severities. -/
def threeRules : Config :=
  ((Config.empty.set "valid-aria-role" ⟨.off, none⟩).set "no-invalid-aria" ⟨.error, none⟩).set
    "img-uses-alt" ⟨.warn, none⟩

theorem lint_in_document_order_nested :
    let image : Element := ⟨"img", [⟨"aria-labeled", none⟩, ⟨"aria-labelled", none⟩]⟩
    let document := ((Document.ofElement ⟨"main", [⟨"aria-name", none⟩]⟩).perform
      (.appendElement ⟨1⟩ image)).perform (.createElement image)
    ∃ linter, ofConfig threeRules = .ok linter ∧
      (linter.lint document).map Diagnostic.place =
        [(⟨1⟩, .attribute 0, .propertyName), (⟨2⟩, .element, .imageText),
          (⟨2⟩, .attribute 0, .propertyName), (⟨2⟩, .attribute 1, .propertyName)] ∧
      (linter.lint document).map Diagnostic.severity = [.error, .warning, .error, .error] ∧
      ((linter.lint document).map Diagnostic.place).Nodup := by
  intro image document
  have accepted : ofConfig threeRules =
      .ok ⟨Ontology.standard, [⟨.imageText ⟨[]⟩, .warning⟩, ⟨.propertyName, .error⟩]⟩ := rfl
  have constructed : document.Constructed :=
    ((Document.Constructed.ofElement _).perform _).perform _
  refine ⟨_, accepted, ?_, ?_, (lint_in_document_order accepted constructed).2.1⟩
  · decide +kernel
  · decide +kernel

end Linter
end AccessAudit
