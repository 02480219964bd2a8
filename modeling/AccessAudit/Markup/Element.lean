import AccessAudit.Markup.Attribute

/-!
# Elements

An element, as its opening tag shows it: the tag and the attributes in the order written.
-/

namespace AccessAudit

/-- An opening element. -/
structure Element where
  /-- The tag as written. -/
  tag : String
  attributes : List Attribute

namespace Element

/-- The first attribute of a name. -/
def find? (element : Element) (name : String) : Option Attribute :=
  Attribute.find? element.attributes name

/-- The element has an attribute of this name. -/
def has (element : Element) (name : String) : Bool :=
  (element.find? name).isSome

/-- Read the first attribute of a name. -/
def reading (element : Element) (name : String) : Reading :=
  Attribute.readingOf element.attributes name

/-- The tag in small letters, the form in which known tags are listed. -/
def normalizedTag (element : Element) : String :=
  Text.lower element.tag

end Element
end AccessAudit
