import AccessAudit.Lint.Finding
import AccessAudit.Property.Catalogue

/-!
# Properties exist

An attribute whose name begins like that of an ARIA property is one.
-/

namespace AccessAudit
namespace PropertyName

/-- The name begins with `aria-`, ignoring case. -/
def looksLikeProperty (name : String) : Bool :=
  Text.eqIgnoringCase (String.ofList (name.toList.take 5)) "aria-"

/-- Check an attribute. -/
def check (attr : Attribute) : Option Finding :=
  if looksLikeProperty attr.name && !Property.isKnown attr.name then
    some (.unknownProperty attr.name)
  else none

end PropertyName
end AccessAudit
