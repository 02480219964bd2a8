import AccessAudit.Lint.Finding
import AccessAudit.Lint.Options

/-!
# Images have a text

An image, or a component that shows one, has a text in its place: an attribute `alt` that is not
`null` or `undefined`.
-/

namespace AccessAudit

/-- The rule that images have a text. -/
structure ImageText where
  /-- The components that show images, by their exact names. -/
  components : List String
deriving DecidableEq, Repr

namespace ImageText

/-- The rule with the components its options name. -/
def ofOptions (options : Option Json) : ImageText :=
  ⟨(options.map OptionShape.namesOf).getD []⟩

/-- The rule is about elements of this tag. -/
def appliesTo (rule : ImageText) (tag : String) : Bool :=
  Text.eqIgnoringCase tag "img" || rule.components.contains tag

/-- Check an element. -/
def check (rule : ImageText) (element : Element) : Option Finding :=
  if rule.appliesTo element.tag && !(element.reading "alt").isBound then
    some (.missingAlternative element.tag)
  else none

end ImageText
end AccessAudit
