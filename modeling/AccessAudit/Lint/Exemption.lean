import AccessAudit.Dictionary
import AccessAudit.Lint.Options
import AccessAudit.Text.Ascii

/-!
# Exemptions

Rules can be told to let names pass on elements of a tag. Exemptions are kept by the tag in small
letters; of two tables of options for one tag the later one replaces the earlier one.
-/

namespace AccessAudit

/-- The exempt names by tag. -/
abbrev Exemptions := Dictionary (List String)

namespace Exemptions

/-- The exemptions that members of options list by tag. -/
def ofMembers (members : List (String × Json)) : Exemptions :=
  Dictionary.ofEntries (members.map fun (tag, names) => (Text.lower tag, OptionShape.namesOf names))

/-- The name is exempt on elements of the tag, ignoring case. -/
def covers (exemptions : Exemptions) (tag name : String) : Bool :=
  (exemptions.get? (Text.lower tag)).any fun names =>
    names.any fun exempt => Text.eqIgnoringCase exempt name

end Exemptions
end AccessAudit
