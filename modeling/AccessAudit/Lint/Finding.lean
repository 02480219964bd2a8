import AccessAudit.Markup.Document
import AccessAudit.Lint.Level
import AccessAudit.Property.Type

/-!
# Findings

What the rules can find, and the diagnostics in which it is reported.
-/

namespace AccessAudit

/-- What a rule found. -/
inductive Finding where
  /-- An image without a text in its place. -/
  | missingAlternative (tag : String)
  /-- An attribute that looks like an ARIA property but is none. -/
  | unknownProperty (name : String)
  /-- A handler on an element that nobody interacts with. -/
  | misplacedHandler
  /-- An explicit role that the element has anyway. -/
  | redundantRole (tag role : String)
  /-- A role whose required properties are not all there. -/
  | missingProperties (role properties : String)
  /-- A position in the tab order that disturbs it. -/
  | positiveTabIndex
  /-- A value outside the type of its property. -/
  | wrongType (name : String) (type : PropertyType)
  /-- A role that does not exist or that no element may have. -/
  | invalidRole
deriving DecidableEq, Repr

namespace Finding

/-- The finding as it is shown. -/
def message : Finding → String
  | .missingAlternative tag => tag ++ " elements must have an alt tag."
  | .unknownProperty name => name ++ ": This attribute is an invalid ARIA attribute."
  | .misplacedHandler =>
    "Non-interactive elements should not be assigned mouse or keyboard event listeners."
  | .redundantRole tag role =>
    "The element " ++ tag ++ " has an implicit role of " ++ role ++
      ". Defining this explicitly is redundant and should be avoided."
  | .missingProperties role properties =>
    "Elements with the ARIA role \"" ++ role ++
      "\" must have the following attributes defined: " ++ properties
  | .positiveTabIndex => "Avoid positive integer values for tabIndex."
  | .wrongType name type => name ++ " must be of type " ++ type.name ++ "."
  | .invalidRole => "Elements with ARIA roles must use a valid, non-abstract ARIA role."

end Finding

/-- The part of an element a diagnostic is about. -/
inductive Target where
  | element
  /-- The attribute at this position. -/
  | attribute (index : Nat)
deriving DecidableEq, Repr

end AccessAudit
