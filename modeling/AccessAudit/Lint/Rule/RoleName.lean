import AccessAudit.Lint.Finding
import AccessAudit.Role.Ontology

/-!
# Roles exist

Every word of a role names a concrete role, and there is at least one.
-/

namespace AccessAudit
namespace RoleName

/-- The words name concrete roles, and there is one. -/
def isValid (ontology : Ontology) (words : List String) : Bool :=
  !words.isEmpty && words.all fun word => (ontology.concrete? word).isSome

/-- Check an attribute. -/
def check (ontology : Ontology) (attr : Attribute) : Option Finding := do
  guard (attr.isNamed "role")
  let text ← attr.reading.text?
  guard (!isValid ontology (Text.words text))
  return .invalidRole

end RoleName
end AccessAudit
