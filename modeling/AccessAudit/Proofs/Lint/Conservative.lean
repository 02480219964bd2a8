import AccessAudit.Lint.Linter
import Mathlib.Data.List.Forall2
import Mathlib.Data.Option.Basic

/-!
# Rules that speak up only on what is known

This file proves of six rules that they are conservative: where the values of some attributes are
lost, so that nothing is known of them, no rule of these reports what it has not reported before.

The rules look at attributes in three ways: at the attribute they are called on, at the first one
of a name, and at whether there is one of a name. Losing values keeps all names, so the first
attribute of a name stays where it is. It then reads as before, or as unknown
(`Attribute.Blurs.reading`), and each rule is silent on what is unknown.
-/

namespace AccessAudit

namespace Attribute

/-- The second attribute is the first one, or has lost its value to an expression that is not
static. -/
def Blurs (attr blurred : Attribute) : Prop :=
  blurred = attr ∨
    ∃ expression : Expression, expression.value? = none ∧
      blurred = { attr with value := some expression }

namespace Blurs

variable {attr blurred : Attribute} {attributes blurredAttributes : List Attribute}

theorem name_eq (blurs : Blurs attr blurred) : blurred.name = attr.name := by
  rcases blurs with rfl | ⟨expression, _, rfl⟩ <;> rfl

theorem isNamed_eq (blurs : Blurs attr blurred) (name : String) :
    blurred.isNamed name = attr.isNamed name := by
  rw [isNamed, isNamed, blurs.name_eq]

theorem reading (blurs : Blurs attr blurred) :
    blurred.reading = attr.reading ∨ blurred.reading = .unknown := by
  rcases blurs with rfl | ⟨expression, unfolded, rfl⟩
  · exact Or.inl rfl
  · right
    simp [Attribute.reading, unfolded]

/-- A check that hangs on the reading and is silent on what is unknown reports nothing new. -/
theorem report {check : Attribute → Option Finding} {finding : Finding}
    (blurs : Blurs attr blurred)
    (congruent : blurred.reading = attr.reading → check blurred = check attr)
    (silent : blurred.reading = .unknown → check blurred = none)
    (reported : check blurred = some finding) : check attr = some finding := by
  rcases blurs.reading with same | unknown
  · rw [← congruent same]
    exact reported
  · rw [silent unknown] at reported
    cases reported

/-- The first attribute of a name stays where it is. -/
theorem find? (blurs : List.Forall₂ Blurs attributes blurredAttributes) (name : String) :
    Option.Rel Blurs (Attribute.find? attributes name)
      (Attribute.find? blurredAttributes name) := by
  induction blurs with
  | nil => exact .none
  | @cons attr blurred _ _ blurs _ ih =>
      simp only [Attribute.find?, List.find?_cons, blurs.isNamed_eq]
      cases attr.isNamed name with
      | true => exact .some blurs
      | false => exact ih

theorem readingOf (blurs : List.Forall₂ Blurs attributes blurredAttributes) (name : String) :
    Attribute.readingOf blurredAttributes name = Attribute.readingOf attributes name ∨
      Attribute.readingOf blurredAttributes name = .unknown := by
  have first := find? blurs name
  simp only [Attribute.readingOf]
  generalize Attribute.find? attributes name = found at first ⊢
  generalize Attribute.find? blurredAttributes name = blurredFound at first ⊢
  cases first with
  | none => exact Or.inl rfl
  | some blurs => exact blurs.reading

end Blurs
end Attribute

namespace Element

/-- The second element is the first one with the values of some attributes lost. -/
structure Blurs (element blurred : Element) : Prop where
  tag : blurred.tag = element.tag
  attributes : List.Forall₂ Attribute.Blurs element.attributes blurred.attributes

namespace Blurs

variable {element blurred : Element}

theorem has_eq (blurs : Blurs element blurred) : blurred.has = element.has := by
  funext name
  have first := Attribute.Blurs.find? blurs.attributes name
  simp only [has, find?]
  generalize Attribute.find? element.attributes name = found at first ⊢
  generalize Attribute.find? blurred.attributes name = blurredFound at first ⊢
  cases first <;> rfl

/-- The attribute at each position is the one that was there, or has lost its value. -/
theorem exists_attribute (blurs : Blurs element blurred) {attr : Attribute} {index : Nat}
    (member : (attr, index) ∈ blurred.attributes.zipIdx) :
    ∃ original, (original, index) ∈ element.attributes.zipIdx ∧
      Attribute.Blurs original attr := by
  rw [List.mk_mem_zipIdx_iff_getElem?] at member
  rcases List.getElem?_eq_some_iff.mp member with ⟨bound, rfl⟩
  have originalBound : index < element.attributes.length := by
    rw [blurs.attributes.length_eq]
    exact bound
  refine ⟨element.attributes[index], ?_, blurs.attributes.get originalBound bound⟩
  rw [List.mk_mem_zipIdx_iff_getElem?]
  exact List.getElem?_eq_getElem originalBound

end Blurs
end Element

section Rules

variable {element blurred : Element} {attr blurredAttr : Attribute} {ontology : Ontology}
  {finding : Finding}

theorem ImageText.check_of_blurs {rule : ImageText} (blurs : element.Blurs blurred)
    (reported : rule.check blurred = some finding) : rule.check element = some finding := by
  rcases Attribute.Blurs.readingOf blurs.attributes "alt" with same | unknown
  · have sameReading : blurred.reading "alt" = element.reading "alt" := same
    rw [check, sameReading, blurs.tag] at reported
    exact reported
  · have unknownReading : blurred.reading "alt" = .unknown := unknown
    simp [check, unknownReading, Reading.isBound] at reported

theorem PropertyName.check_of_blurs (blurs : attr.Blurs blurredAttr)
    (reported : PropertyName.check blurredAttr = some finding) :
    PropertyName.check attr = some finding := by
  rw [check, blurs.name_eq] at reported
  exact reported

theorem PropertyValue.check_of_blurs (blurs : attr.Blurs blurredAttr)
    (reported : PropertyValue.check blurredAttr = some finding) :
    PropertyValue.check attr = some finding := by
  refine blurs.report ?_ ?_ reported
  · intro same
    rw [check, check, blurs.name_eq, same]
  · intro unknown
    cases type : Property.type? blurredAttr.name <;>
      simp [check, Property.isValid, type, unknown, Reading.value?, failure]

theorem TabOrder.check_of_blurs (blurs : attr.Blurs blurredAttr)
    (reported : TabOrder.check blurredAttr = some finding) :
    TabOrder.check attr = some finding := by
  refine blurs.report ?_ ?_ reported
  · intro same
    rw [check, check, blurs.isNamed_eq, same]
  · intro unknown
    simp [check, unknown, Reading.value?]

theorem RoleName.check_of_blurs (blurs : attr.Blurs blurredAttr)
    (reported : RoleName.check ontology blurredAttr = some finding) :
    RoleName.check ontology attr = some finding := by
  refine blurs.report ?_ ?_ reported
  · intro same
    rw [check, check, blurs.isNamed_eq, same]
  · intro unknown
    simp [check, unknown, Reading.text?]

theorem RequiredProperty.check_of_blurs (blurs : element.Blurs blurred)
    (attrBlurs : attr.Blurs blurredAttr)
    (reported : RequiredProperty.check ontology blurred blurredAttr = some finding) :
    RequiredProperty.check ontology element attr = some finding := by
  have sameUnmet : unmet? ontology blurred = unmet? ontology element := by
    funext word
    rw [unmet?, unmet?, blurs.has_eq]
  have sameCheck : check ontology blurred = check ontology element := by
    funext attr
    rw [check, check, sameUnmet]
  rw [sameCheck] at reported
  refine attrBlurs.report ?_ ?_ reported
  · intro same
    rw [check, check, attrBlurs.isNamed_eq, same]
  · intro unknown
    simp [check, unknown, Reading.text?]

end Rules

namespace RuleId

/-- The rules that report only on what is known. -/
def conservative : List RuleId :=
  [.imageText, .requiredProperty, .propertyValue, .tabOrder, .roleName, .propertyName]

end RuleId

namespace Rule

variable {element blurred : Element} {ontology : Ontology} {finding : Finding}

theorem checkElement_of_blurs {rule : Rule} (conservative : rule.id ∈ RuleId.conservative)
    (blurs : element.Blurs blurred)
    (reported : rule.checkElement ontology blurred = some finding) :
    rule.checkElement ontology element = some finding := by
  cases rule with
  | imageText rule => exact rule.check_of_blurs blurs reported
  | handlerPlacement | roleRedundancy => simp [id, RuleId.conservative] at conservative
  | _ => cases reported

theorem checkAttribute_of_blurs {rule : Rule} (conservative : rule.id ∈ RuleId.conservative)
    {attr blurredAttr : Attribute} (blurs : element.Blurs blurred)
    (attrBlurs : attr.Blurs blurredAttr)
    (reported : rule.checkAttribute ontology blurred blurredAttr = some finding) :
    rule.checkAttribute ontology element attr = some finding := by
  cases rule with
  | propertyName => exact PropertyName.check_of_blurs attrBlurs reported
  | requiredProperty => exact RequiredProperty.check_of_blurs blurs attrBlurs reported
  | tabOrder => exact TabOrder.check_of_blurs attrBlurs reported
  | propertyValue => exact PropertyValue.check_of_blurs attrBlurs reported
  | roleName => exact RoleName.check_of_blurs attrBlurs reported
  | handlerPlacement | roleRedundancy => simp [id, RuleId.conservative] at conservative
  | imageText => cases reported

end Rule

namespace Linter

theorem mem_lintElement {linter : Linter} {node : NodeId} {element : Element}
    {diagnostic : Diagnostic} :
    diagnostic ∈ linter.lintElement node element ↔
      (∃ active ∈ linter.rules,
        active.onElement? linter.ontology node element = some diagnostic) ∨
      ∃ attr index, (attr, index) ∈ element.attributes.zipIdx ∧ ∃ active ∈ linter.rules,
        active.onAttribute? linter.ontology node element attr index = some diagnostic := by
  simp only [lintElement, List.mem_append, List.mem_filterMap, List.mem_flatMap, Prod.exists]

/-- Losing values adds no diagnostic of a conservative rule: what is reported is reported of the
same place, with the same message, where the values are known. -/
theorem lintElement_of_blurs {linter : Linter} {node : NodeId} {element blurred : Element}
    {diagnostic : Diagnostic} (blurs : element.Blurs blurred)
    (conservative : diagnostic.rule ∈ RuleId.conservative)
    (reported : diagnostic ∈ linter.lintElement node blurred) :
    diagnostic ∈ linter.lintElement node element := by
  rw [mem_lintElement] at reported ⊢
  rcases reported with ⟨active, enabled, onElement⟩ | ⟨blurredAttr, index, member, reported⟩
  · left
    rcases Option.map_eq_some_iff.mp onElement with ⟨finding, found, rfl⟩
    have stillFound := Rule.checkElement_of_blurs conservative blurs found
    exact ⟨active, enabled, Option.map_eq_some_iff.mpr ⟨finding, stillFound, rfl⟩⟩
  · right
    rcases reported with ⟨active, enabled, onAttribute⟩
    rcases blurs.exists_attribute member with ⟨attr, originalMember, attrBlurs⟩
    rcases Option.map_eq_some_iff.mp onAttribute with ⟨finding, found, rfl⟩
    have stillFound := Rule.checkAttribute_of_blurs conservative blurs attrBlurs found
    exact ⟨attr, index, originalMember, active, enabled,
      Option.map_eq_some_iff.mpr ⟨finding, stillFound, rfl⟩⟩

theorem lintElement_of_blurs_image :
    let linter : Linter := ⟨Ontology.empty, [⟨.imageText ⟨[]⟩, .error⟩, ⟨.tabOrder, .warning⟩]⟩
    let element : Element := ⟨"img", [⟨"tabIndex", some (.literal (.string "5"))⟩]⟩
    let blurred : Element := ⟨"img", [⟨"tabIndex", some .dynamic⟩]⟩
    let report : Diagnostic := ⟨.imageText, .missingAlternative "img", .error, ⟨1⟩, .element⟩
    linter.lintElement ⟨1⟩ blurred = [report] ∧ report ∈ linter.lintElement ⟨1⟩ element := by
  intro linter element blurred report
  have reported : linter.lintElement ⟨1⟩ blurred = [report] := by decide
  have blurs : element.Blurs blurred := ⟨rfl, .cons (Or.inr ⟨.dynamic, rfl, rfl⟩) .nil⟩
  have member : report ∈ linter.lintElement ⟨1⟩ blurred := by
    rw [reported]
    exact List.mem_singleton_self report
  exact ⟨reported, lintElement_of_blurs blurs (by decide) member⟩

end Linter

end AccessAudit
