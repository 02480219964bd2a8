import AccessAudit.Lint.Finding
import AccessAudit.Role.Ontology

/-!
# Required properties are there

An element with a role has all properties that the role requires.
-/

namespace AccessAudit
namespace RequiredProperty

/-- The role of a word, if it is concrete and requires a property that the element lacks. -/
def unmet? (ontology : Ontology) (element : Element) (word : String) : Option Role :=
  (ontology.concrete? word).filter fun role => !role.required.keys.all element.has

/-- Check an attribute of an element. -/
def check (ontology : Ontology) (element : Element) (attr : Attribute) : Option Finding := do
  guard (attr.isNamed "role")
  let text ← attr.reading.text?
  let role ← (Text.words text).findSome? (unmet? ontology element)
  return .missingProperties (Text.lower role.name) role.requiredText

end RequiredProperty
end AccessAudit
