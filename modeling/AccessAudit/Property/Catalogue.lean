import AccessAudit.Markup.Attribute
import AccessAudit.Property.Type

/-!
# The catalogue of properties

The ARIA states and properties with their types, looked up ignoring case.
-/

namespace AccessAudit
namespace Property

/-- The states and properties with boolean values. -/
def booleans : List String :=
  ["aria-atomic", "aria-busy", "aria-disabled", "aria-expanded", "aria-grabbed", "aria-hidden",
    "aria-modal", "aria-multiline", "aria-multiselectable", "aria-readonly", "aria-required",
    "aria-selected"]

/-- The states with a third value. -/
def tristates : List String := ["aria-checked", "aria-pressed"]

/-- The properties with integer values. -/
def integers : List String :=
  ["aria-colcount", "aria-colindex", "aria-colspan", "aria-level", "aria-posinset",
    "aria-rowcount", "aria-rowindex", "aria-rowspan", "aria-setsize"]

/-- The properties with numbers as values. -/
def numbers : List String := ["aria-valuemax", "aria-valuemin", "aria-valuenow"]

/-- The properties with texts as values, references to other elements among them. -/
def strings : List String :=
  ["aria-activedescendant", "aria-controls", "aria-describedby", "aria-details",
    "aria-errormessage", "aria-flowto", "aria-keyshortcuts", "aria-label", "aria-labelledby",
    "aria-owns", "aria-placeholder", "aria-roledescription", "aria-valuetext"]

/-- The properties with tokens as values. -/
def tokens : List (String × PropertyType) :=
  [("aria-autocomplete", .token ["inline", "list", "both", "none"]),
    ("aria-current", .token ["page", "step", "location", "date", "time", "true", "false"]),
    ("aria-haspopup", .token ["false", "true", "menu", "listbox", "tree", "grid", "dialog"]),
    ("aria-invalid", .token ["grammar", "false", "spelling", "true"]),
    ("aria-live", .token ["assertive", "off", "polite"]),
    ("aria-orientation", .token ["horizontal", "vertical"]),
    ("aria-sort", .token ["ascending", "descending", "none", "other"]),
    ("aria-dropeffect", .tokenList ["copy", "move", "link", "execute", "popup", "none"]),
    ("aria-relevant", .tokenList ["additions", "all", "removals", "text"])]

/-- All properties, in small letters, with their types. -/
def catalogue : List (String × PropertyType) :=
  booleans.map (·, .boolean) ++ tristates.map (·, .tristate) ++ integers.map (·, .integer) ++
    numbers.map (·, .number) ++ strings.map (·, .string) ++ tokens

/-- The type of a property, ignoring case. -/
def type? (name : String) : Option PropertyType :=
  catalogue.lookup (Text.lower name)

/-- The property is known, ignoring case. -/
def isKnown (name : String) : Bool :=
  (type? name).isSome

/-- The reading fits the property: what is not known fits, and so does any value of a property
that is not catalogued. -/
def isValid (name : String) (reading : Reading) : Bool :=
  match type? name, reading.value? with
  | some type, some value => type.accepts value
  | _, _ => true

end Property
end AccessAudit
