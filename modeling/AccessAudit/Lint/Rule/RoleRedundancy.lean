import AccessAudit.Lint.Exemption
import AccessAudit.Lint.Finding
import AccessAudit.Role.Ontology

/-!
# Roles are not repeated

An explicit role does not say what the element is anyway.
-/

namespace AccessAudit

/-- The rule on repeated roles. -/
structure RoleRedundancy where
  /-- The roles that may be repeated. -/
  exemptions : Exemptions

namespace RoleRedundancy

/-- The rule with the exemptions its options list. -/
def ofOptions (options : Option Json) : RoleRedundancy :=
  ⟨Exemptions.ofMembers (OptionShape.membersOf options)⟩

/-- The first word of an explicit role that names a role. -/
def explicitRole? (ontology : Ontology) (element : Element) : Option String := do
  let text ← Attribute.roleText? element.attributes
  (Text.words text).find? fun word => (ontology.role? word).isSome

/-- Check an element. -/
def check (rule : RoleRedundancy) (ontology : Ontology) (element : Element) : Option Finding := do
  guard (Vocabulary.isKnown element.tag)
  let explicit ← explicitRole? ontology element
  let implicit ← ontology.implicitRole? element.tag element.attributes
  guard (Text.eqIgnoringCase explicit implicit)
  guard (!rule.exemptions.covers element.tag implicit)
  return .redundantRole element.tag implicit

end RoleRedundancy
end AccessAudit
