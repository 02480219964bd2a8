import AccessAudit.Lint.Finding
import AccessAudit.Property.Catalogue

/-!
# Properties have values of their type

A property whose value is known has one of its type.
-/

namespace AccessAudit
namespace PropertyValue

/-- Check an attribute. -/
def check (attr : Attribute) : Option Finding := do
  let type ← Property.type? attr.name
  guard (!Property.isValid attr.name attr.reading)
  return .wrongType attr.name type

end PropertyValue
end AccessAudit
